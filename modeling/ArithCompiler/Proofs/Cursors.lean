import ArithCompiler.Proofs.Spines

/-!
# Cursors

A draft is a zipper: its tree, the slots of its spine and the open slot are all read off its frames.
A cursor stores the three and changes each of them in place (`SPEC_FULL.md` §9). An index that no
slot has, or a slot that the tree does not have, is then a fault.

A cursor and a draft go in step: what one does to the stored tree, slots and hole is what the other
does to its frames, and there is no fault (`attach_cursor`, `operator_cursor`, `assign_cursor`). So
whatever the steps were, the stored slots are those of the right spine of the stored tree, and the
stored hole is its only one (`Cursor.Reached.wellFormed`).
-/

namespace ArithCompiler

/-! ### Places on the right spine -/

namespace Expr

/-- What stands `n` nodes down the right spine. -/
def read? : Expr → Nat → Option Expr
  | e, 0 => some e
  | .binary _ _ _ right, n + 1 => right.read? n
  | .assign _ _ value, n + 1 => value.read? n
  | .ret _ value, n + 1 => value.read? n
  | _, _ + 1 => none

/-- The tree with `x` in place of what stands `n` nodes down the right spine. -/
def write? : Expr → Nat → Expr → Option Expr
  | _, 0, x => some x
  | .binary loc left op right, n + 1, x => (right.write? n x).map (.binary loc left op)
  | .assign loc name value, n + 1, x => (value.write? n x).map (.assign loc name)
  | .ret loc value, n + 1, x => (value.write? n x).map (.ret loc)
  | _, _ + 1, _ => none

theorem read?_zero (e : Expr) : e.read? 0 = some e := by
  cases e <;> rfl

/-- Below its root, the places of a tree are those of its last operand. -/
theorem map_read?_range_cons {x y : Expr} (hspine : x.rightSpine = x :: y.rightSpine)
    (hread : ∀ n, x.read? (n + 1) = y.read? n)
    (hy : (List.range y.rightSpine.length).map y.read? = y.rightSpine.map some) :
    (List.range x.rightSpine.length).map x.read? = x.rightSpine.map some := by
  have hbelow : x.read? ∘ Nat.succ = y.read? := funext hread
  rw [hspine, List.length_cons, List.range_succ_eq_map, List.map_cons, List.map_map, hbelow, hy,
    read?_zero, List.map_cons]

theorem map_read?_range (e : Expr) :
    (List.range e.rightSpine.length).map e.read? = e.rightSpine.map some := by
  induction e with
  | hole => rfl
  | literal => rfl
  | var => rfl
  | group => rfl
  | binary loc left op right _ ih => exact map_read?_range_cons rfl (fun _ => rfl) ih
  | assign loc name value ih => exact map_read?_range_cons rfl (fun _ => rfl) ih
  | ret loc value ih => exact map_read?_range_cons rfl (fun _ => rfl) ih

theorem spineEnd_of_isAtomic {e : Expr} (h : e.isAtomic = true) : e.spineEnd = e := by
  cases e with
  | literal => rfl
  | var => rfl
  | group => rfl
  | _ => cases h

end Expr

/-! ### Stored positions -/

structure Cursor where
  root : Expr
  /-- How far down the right spine the filled slots are, from the root on. -/
  slots : List Nat
  /-- Where the next operand goes; `none` while none is expected. -/
  hole : Option Nat
deriving DecidableEq, Repr

namespace Cursor

/-- What in-place changes can trip over. -/
inductive Fault where
  /-- There is no slot of this index. -/
  | noSlot
  /-- The tree does not go down that far. -/
  | dangling
  /-- An operator has no rank. -/
  | unranked
deriving DecidableEq, Repr

def new : Cursor := ⟨.hole, [], some 0⟩

/-- The slot with an index. -/
def slot (c : Cursor) (i : Nat) : Except Fault Nat :=
  match c.slots[i]? with
  | some n => .ok n
  | none => .error .noSlot

def read (c : Cursor) (n : Nat) : Except Fault Expr :=
  match c.root.read? n with
  | some e => .ok e
  | none => .error .dangling

def write (c : Cursor) (n : Nat) (x : Expr) : Except Fault Expr :=
  match c.root.write? n x with
  | some e => .ok e
  | none => .error .dangling

/-! ### Steps -/

/-- Fills the hole, which becomes the last slot. -/
def attach (c : Cursor) (e : Expr) : Except Fault (Option Cursor) :=
  match c.hole with
  | none => .ok none
  | some n => do
    let root ← c.write n e
    pure (some ⟨root, c.slots ++ [n], none⟩)

/-- Whether an operator goes below a node rather than above it. -/
def descends (op : Operator) : Expr → Except Fault Bool
  | .assign _ _ _ | .ret _ _ => .ok true
  | .binary _ _ code _ =>
    match code.rank? with
    | some r => .ok (r < op.rank)
    | none => .error .unranked
  | .hole | .literal _ _ | .var _ _ | .group _ _ => .ok false

/-- The index of the slot that an operator takes over, which is `i` or a smaller one: the first
that follows a node below which the operator goes. -/
def seat (c : Cursor) (op : Operator) : Nat → Except Fault Nat
  | 0 => .ok 0
  | i + 1 => do
    let node ← c.read (← c.slot i)
    if ← descends op node then pure (i + 1) else c.seat op i

/-- Puts an operator above what is in its slot. Its right operand becomes the hole, and the slots
that were below it are gone. -/
def operator (c : Cursor) (loc : Location) (op : Operator) : Except Fault (Option Cursor) :=
  match c.hole, c.slots.length with
  | some _, _ => .ok none
  | none, 0 => .error .noSlot
  | none, last + 1 => do
    let i ← c.seat op last
    let n ← c.slot i
    let left ← c.read n
    let root ← c.write n (.binary loc left (.known op) .hole)
    pure (some ⟨root, c.slots.take (i + 1), some (n + 1)⟩)

/-- Makes a bare variable the target of an assignment. -/
def assign (c : Cursor) (loc : Location) : Option Cursor :=
  match c.root, c.hole with
  | .var _ name, none => some ⟨.assign loc name .hole, [0], some 1⟩
  | _, _ => none

def startReturn (loc : Location) : Cursor := ⟨.ret loc .hole, [0], some 1⟩

/-- The cursors that steps lead to, with complete operands that no operator goes into. -/
inductive Reached : Cursor → Prop
  | new : Reached .new
  | attach {c c' : Cursor} {e : Expr} (hc : Reached c) (he : e.isAtomic = true)
    (h : c.attach e = .ok (some c')) : Reached c'
  | operator {c c' : Cursor} {loc : Location} {op : Operator} (hc : Reached c)
    (h : c.operator loc op = .ok (some c')) : Reached c'
  | assign {c c' : Cursor} {loc : Location} (hc : Reached c) (h : c.assign loc = some c') :
    Reached c'
  | startReturn (loc : Location) : Reached (.startReturn loc)

/-- What is stored fits together, and no step has a fault. -/
structure WellFormed (c : Cursor) : Prop where
  /-- The slots hold the nodes of the right spine of the tree, from the root on. -/
  spine : c.slots.map c.root.read? = c.root.rightSpine.map some
  /-- These are nodes in order, and the operand at the bottom if none is expected. -/
  order : ∃ nodes, Draft.Rising nodes ∧
    c.root.rightSpine = nodes ++ if c.hole = none then [c.root.spineEnd] else []
  operand : c.hole = none → c.root.spineEnd.isComplete = true
  /-- A hole is stored exactly if the tree has one, … -/
  expected : c.hole = none ↔ c.root.isComplete = true
  /-- … and then there is only this one, below the last slot. -/
  hole : ∀ n, c.hole = some n → n = c.slots.length ∧ c.root.read? n = some .hole ∧
    c.root.holes = 1
  bounded : c.slots.length ≤ 4
  nonempty : c.hole = none → c.slots ≠ []
  attaches : ∀ e, ∃ r, c.attach e = .ok r
  operators : ∀ loc op, ∃ r, c.operator loc op = .ok r

end Cursor

/-! ### Cursors of drafts -/

theorem Frame.read?_fill (f : Frame) (e : Expr) (n : Nat) :
    (f.fill e).read? (n + 1) = e.read? n := by
  cases f <;> rfl

theorem Frame.write?_fill (f : Frame) (e : Expr) (n : Nat) (x : Expr) :
    (f.fill e).write? (n + 1) x = (e.write? n x).map f.fill := by
  cases f <;> rfl

theorem Frame.descends_fill (f : Frame) (e : Expr) (op : Operator) :
    Cursor.descends op (f.fill e) = .ok (f.keepsAbove op) := by
  cases f <;> rfl

namespace Draft

/-- The cursor that stores what the frames give. -/
def cursor (d : Draft) : Cursor where
  root := d.root
  slots := List.range d.slots.length
  hole := if d.operand = none then some d.slots.length else none

theorem length_slots (d : Draft) : d.slots.length = d.spine.length + d.operand.toList.length := by
  simp [slots, length_nodes]

theorem read?_plug (s : List Frame) (e : Expr) (n : Nat) :
    (plug s e).read? (s.length + n) = e.read? n := by
  induction s generalizing e n with
  | nil => simp [plug]
  | cons f s ih =>
    rw [plug_cons, List.length_cons, Nat.add_assoc, Nat.add_comm 1 n, ih, f.read?_fill]

theorem write?_plug (s : List Frame) (e : Expr) (n : Nat) (x : Expr) :
    (plug s e).write? (s.length + n) x = (e.write? n x).map (plug s) := by
  induction s generalizing e n with
  | nil =>
    rw [List.length_nil, Nat.zero_add]
    exact Option.map_id'.symm
  | cons f s ih =>
    rw [plug_cons, List.length_cons, Nat.add_assoc, Nat.add_comm 1 n, ih, f.write?_fill,
      Option.map_map]
    rfl

theorem plug_climb (op : Operator) (s : List Frame) (e : Expr) :
    plug (climb op s e).1 (climb op s e).2 = plug s e := by
  induction s generalizing e with
  | nil => rfl
  | cons f s ih =>
    rw [climb]
    split
    · rfl
    · exact ih (f.fill e)

theorem length_climb_le (op : Operator) (s : List Frame) (e : Expr) :
    (climb op s e).1.length ≤ s.length := by
  induction s generalizing e with
  | nil => exact Nat.le_refl _
  | cons f s ih =>
    rw [climb]
    split
    · exact Nat.le_refl _
    · exact Nat.le_succ_of_le (ih (f.fill e))

/-! ### Steps of both -/

theorem slot_cursor {d : Draft} {i : Nat} (h : i < d.slots.length) : d.cursor.slot i = .ok i := by
  simp only [Cursor.slot, cursor, List.getElem?_range h]

section

variable {d : Draft} {s : List Frame} {e : Expr}

theorem read_cursor (hroot : d.root = plug s e) : d.cursor.read s.length = .ok e := by
  have hread : d.root.read? s.length = some e := by
    rw [hroot, ← Nat.add_zero s.length, read?_plug, e.read?_zero]
  simp only [Cursor.read, cursor, hread]

theorem write_cursor (hroot : d.root = plug s e) (x : Expr) :
    d.cursor.write s.length x = .ok (plug s x) := by
  have hwrite : d.root.write? s.length x = some (plug s x) := by
    rw [hroot, ← Nat.add_zero s.length, write?_plug]
    cases e <;> rfl
  simp only [Cursor.write, cursor, hwrite]

/-- From the last slot up, a cursor passes the nodes that a draft takes off its spine. -/
theorem seat_cursor (hroot : d.root = plug s e) (hlen : s.length ≤ d.slots.length)
    (op : Operator) : d.cursor.seat op s.length = .ok (climb op s e).1.length := by
  induction s generalizing e with
  | nil => rfl
  | cons f s ih =>
    have hslot : d.cursor.slot s.length = .ok s.length := slot_cursor hlen
    have hread : d.cursor.read s.length = .ok (f.fill e) := read_cursor hroot
    rw [List.length_cons, Cursor.seat, climb]
    simp only [hslot, hread, f.descends_fill, bind, Except.bind]
    cases hk : f.keepsAbove op with
    | true => rfl
    | false => exact ih hroot (Nat.le_of_succ_le hlen)

end

theorem cursor_of_operand (s : List Frame) (e : Expr) :
    cursor ⟨s, some e⟩ = ⟨plug s e, List.range (s.length + 1), none⟩ := by
  simp [cursor, root, length_slots]

theorem cursor_of_hole (s : List Frame) :
    cursor ⟨s, none⟩ = ⟨plug s .hole, List.range s.length, some s.length⟩ := by
  simp [cursor, root, length_slots]

theorem attach_cursor (d : Draft) (e : Expr) :
    d.cursor.attach e = .ok ((d.attach? e).map cursor) := by
  obtain ⟨s, _ | x⟩ := d
  · have hroot : (Draft.mk s none).root = plug s .hole := rfl
    have hwrite := write_cursor hroot e
    rw [cursor_of_hole] at hwrite ⊢
    simp only [Cursor.attach, hwrite, bind, Except.bind, pure, Except.pure, attach?,
      Option.map_some, cursor_of_operand, List.range_succ]
  · rw [cursor_of_operand]
    rfl

theorem operator_cursor (d : Draft) (loc : Location) (op : Operator) :
    d.cursor.operator loc op = .ok ((d.operator? loc op).map cursor) := by
  obtain ⟨s, _ | e⟩ := d
  · rw [cursor_of_hole]
    rfl
  · have hlen : (Draft.mk s (some e)).slots.length = s.length + 1 := length_slots _
    have hle := length_climb_le op s e
    have hroot : (Draft.mk s (some e)).root = plug s e := rfl
    have hclimb := hroot.trans (plug_climb op s e).symm
    have hseat := seat_cursor hroot (by omega) op
    have hslot := slot_cursor (d := ⟨s, some e⟩) (i := (climb op s e).1.length) (by omega)
    have hread := read_cursor hclimb
    have hwrite := write_cursor hclimb
    have htake : (List.range (s.length + 1)).take ((climb op s e).1.length + 1) =
        List.range ((climb op s e).1.length + 1) := by
      rw [List.take_range, Nat.min_eq_left (by omega)]
    rw [cursor_of_operand] at hseat hslot hread hwrite ⊢
    simp only [Cursor.operator, List.length_range, hseat, hslot, hread, hwrite, htake, bind,
      Except.bind, pure, Except.pure, operator?, Option.map_some, cursor_of_hole]
    rfl

theorem plug_cons_ne_var (f : Frame) (s : List Frame) (e : Expr) (loc : Location) (name : String) :
    plug (f :: s) e ≠ .var loc name := by
  have hfill : ∀ (g : Frame) (x : Expr), g.fill x ≠ .var loc name := by
    intro g x
    cases g <;> simp [Frame.fill]
  rw [plug_cons]
  exact plug_induction (P := (· ≠ .var loc name)) (hfill f e) fun g _ x _ => hfill g x

theorem assign_cursor (d : Draft) (loc : Location) :
    d.cursor.assign loc = (d.assign? loc).map cursor := by
  obtain ⟨s, _ | e⟩ := d
  · rw [cursor_of_hole]
    cases s <;> simp [Cursor.assign, assign?]
  · rw [cursor_of_operand]
    cases s with
    | nil => cases e <;> rfl
    | cons f s =>
      unfold Cursor.assign
      split
      · next l name hvar _ => exact absurd hvar (plug_cons_ne_var f s e l name)
      · rfl

/-! ### What is stored -/

theorem hole_cursor_eq_none {d : Draft} : d.cursor.hole = none ↔ d.operand ≠ none := by
  simp [cursor]

theorem Ordered.spineEnd_root {d : Draft} {e : Expr} (h : d.Ordered) (ho : d.operand = some e) :
    d.root.spineEnd = e := by
  rw [root, ho, spineEnd_plug]
  exact Expr.spineEnd_of_isAtomic (h.operand e ho)

theorem Ordered.wellFormed_cursor {d : Draft} (h : d.Ordered) : d.cursor.WellFormed where
  spine := by
    have hslots : d.cursor.slots = List.range d.root.rightSpine.length := by
      rw [← h.slots_eq]
      rfl
    rw [hslots]
    exact d.root.map_read?_range
  order := by
    obtain ⟨nodes, hrising, hslots⟩ := h.wellFormed.order
    have hroot : d.cursor.root = d.root := rfl
    refine ⟨nodes, hrising, ?_⟩
    rw [hroot, ← h.slots_eq, hslots]
    cases ho : d.operand with
    | none => simp [cursor, ho]
    | some e => simp [cursor, ho, h.spineEnd_root ho]
  operand := by
    intro hnone
    obtain ⟨e, ho⟩ := Option.ne_none_iff_exists'.mp (hole_cursor_eq_none.mp hnone)
    have hend : d.cursor.root.spineEnd = e := h.spineEnd_root ho
    rw [hend]
    exact h.wellFormed.operand e ho
  expected := by
    rw [hole_cursor_eq_none, ne_eq, h.wellFormed.expected, Bool.not_eq_false]
    rfl
  hole := by
    obtain ⟨s, _ | e⟩ := d
    · rintro n hn
      rw [cursor_of_hole] at hn ⊢
      cases hn
      refine ⟨List.length_range.symm, ?_, (h.wellFormed.hole rfl).1⟩
      exact (read?_plug s .hole 0).trans (Expr.read?_zero _)
    · rintro n ⟨⟩
  bounded := by
    simpa [cursor] using h.wellFormed.bounded
  nonempty := by
    intro hnone
    obtain ⟨e, ho⟩ := Option.ne_none_iff_exists'.mp (hole_cursor_eq_none.mp hnone)
    have hslots := h.wellFormed.nonempty (h.isComplete_root ho)
    simpa [cursor] using hslots
  attaches := fun e => ⟨_, d.attach_cursor e⟩
  operators := fun loc op => ⟨_, d.operator_cursor loc op⟩

/-! ### Runs of both -/

section

variable {d d' : Draft} (h : d.Ordered)
include h

theorem Ordered.of_attach? {e : Expr} (he : e.isAtomic = true) (hd : d.attach? e = some d') :
    d'.Ordered := by
  unfold attach? at hd
  split at hd
  · cases hd
  · cases hd
    exact h.attach he

theorem Ordered.of_operator? {loc : Location} {op : Operator}
    (hd : d.operator? loc op = some d') : d'.Ordered := by
  unfold operator? at hd
  split at hd
  · cases hd
  · next e ho =>
    cases hd
    exact h.operator ho loc op

end

theorem ordered_of_assign? {d d' : Draft} {loc : Location} (hd : d.assign? loc = some d') :
    d'.Ordered := by
  unfold assign? at hd
  split at hd
  · cases hd
    exact ordered_single rfl
  · cases hd

section

variable {d d' : Draft} (h : d.cursor.Reached)
include h

theorem reached_attach {e : Expr} (he : e.isAtomic = true) (hd : d.attach? e = some d') :
    d'.cursor.Reached := by
  have hstep : d.cursor.attach e = .ok (some d'.cursor) := by
    rw [attach_cursor, hd]
    rfl
  exact .attach h he hstep

theorem reached_operator {loc : Location} {op : Operator} (hd : d.operator? loc op = some d') :
    d'.cursor.Reached := by
  have hstep : d.cursor.operator loc op = .ok (some d'.cursor) := by
    rw [operator_cursor, hd]
    rfl
  exact .operator h hstep

theorem reached_assign {loc : Location} (hd : d.assign? loc = some d') : d'.cursor.Reached := by
  have hstep : d.cursor.assign loc = some d'.cursor := by
    rw [assign_cursor, hd]
    rfl
  exact .assign h hstep

end

end Draft

namespace Cursor

/-- Every cursor that steps lead to is that of a draft in order: the steps of the two agree. -/
theorem Reached.exists_draft {c : Cursor} (h : c.Reached) :
    ∃ d : Draft, d.Ordered ∧ d.cursor = c := by
  induction h with
  | new => exact ⟨.empty, Draft.ordered_empty, rfl⟩
  | attach hc he h ih =>
    obtain ⟨d, hd, rfl⟩ := ih
    rw [d.attach_cursor, Except.ok.injEq, Option.map_eq_some_iff] at h
    obtain ⟨d', hd', rfl⟩ := h
    exact ⟨d', hd.of_attach? he hd', rfl⟩
  | operator hc h ih =>
    obtain ⟨d, hd, rfl⟩ := ih
    rw [d.operator_cursor, Except.ok.injEq, Option.map_eq_some_iff] at h
    obtain ⟨d', hd', rfl⟩ := h
    exact ⟨d', hd.of_operator? hd', rfl⟩
  | assign hc h ih =>
    obtain ⟨d, hd, rfl⟩ := ih
    rw [d.assign_cursor, Option.map_eq_some_iff] at h
    obtain ⟨d', hd', rfl⟩ := h
    exact ⟨d', Draft.ordered_of_assign? hd', rfl⟩
  | startReturn loc => exact ⟨.startReturn loc, Draft.ordered_single rfl, rfl⟩

theorem Reached.wellFormed {c : Cursor} (h : c.Reached) : c.WellFormed := by
  obtain ⟨d, hd, rfl⟩ := h.exists_draft
  exact hd.wellFormed_cursor

/-- No step leads to a cursor that has neither a hole nor a slot. -/
example : Cursor.operator ⟨.hole, [], none⟩ .start .add = .error .noSlot := rfl

end Cursor

end ArithCompiler
