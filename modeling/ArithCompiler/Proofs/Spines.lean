import ArithCompiler.Proofs.Reading

/-!
# Spines in order

In a draft that is in order (`Draft.Ordered`), the inner one of any two frames of the
spine is binary, and its operator goes below the outer one. The steps of a draft keep
this. It follows that the nodes of the spine are those of the right spine of the tree,
with at most one return or assignment in front and binary nodes of increasing rank
after it, and that the tree has a hole only where the next operand goes
(`Draft.WellFormed`).
-/

namespace ArithCompiler

/-! ### Right spines -/

namespace Expr

/-- The nodes of the right spine, from the root on. A hole is no node. -/
def rightSpine : Expr → List Expr
  | .hole => []
  | .literal loc digits => [.literal loc digits]
  | .var loc name => [.var loc name]
  | .group loc inner => [.group loc inner]
  | .binary loc left op right => .binary loc left op right :: right.rightSpine
  | .assign loc name value => .assign loc name value :: value.rightSpine
  | .ret loc value => .ret loc value :: value.rightSpine

/-- What stands at the end of the right spine. -/
def spineEnd : Expr → Expr
  | .binary _ _ _ right => right.spineEnd
  | .assign _ _ value => value.spineEnd
  | .ret _ value => value.spineEnd
  | e => e

/-- The number of holes. -/
def holes : Expr → Nat
  | .hole => 1
  | .literal _ _ | .var _ _ => 0
  | .binary _ left _ right => left.holes + right.holes
  | .assign _ _ value => value.holes
  | .ret _ value => value.holes
  | .group _ inner => inner.holes

/-- The rank of a binary node. -/
def rank? : Expr → Option Nat
  | .binary _ _ op _ => op.rank?
  | _ => none

/-- A node that can only be the first one of a spine. -/
def isHead : Expr → Bool
  | .assign _ _ _ | .ret _ _ => true
  | _ => false

/-- A complete tree that no operator goes into. -/
def isAtomic : Expr → Bool
  | .literal _ _ | .var _ _ => true
  | .group _ inner => inner.isComplete
  | .hole | .binary _ _ _ _ | .assign _ _ _ | .ret _ _ => false

theorem holes_eq_zero_iff (e : Expr) : e.holes = 0 ↔ e.isComplete = true := by
  induction e with
  | hole => simp [holes, isComplete]
  | literal => simp [holes, isComplete]
  | var => simp [holes, isComplete]
  | binary loc left op right ihl ihr => simp [holes, isComplete, ihl, ihr]
  | assign loc name value ih => exact ih
  | ret loc value ih => exact ih
  | group loc inner ih => exact ih

theorem isComplete_of_isAtomic {e : Expr} (h : e.isAtomic = true) : e.isComplete = true := by
  cases e with
  | literal => rfl
  | var => rfl
  | group loc inner => exact h
  | _ => cases h

theorem rightSpine_of_isAtomic {e : Expr} (h : e.isAtomic = true) : e.rightSpine = [e] := by
  cases e with
  | literal => rfl
  | var => rfl
  | group => rfl
  | _ => cases h

theorem isReturn_of_isAtomic {e : Expr} (h : e.isAtomic = true) : e.isReturn = false := by
  cases e with
  | ret => cases h
  | _ => rfl

end Expr

/-! ### Frames -/

namespace Frame

/-- The node has all its operands but the last. -/
def isFilled : Frame → Bool
  | .binary _ left _ => left.isComplete
  | .assign _ _ | .ret _ => true

def isReturn : Frame → Bool
  | .ret _ => true
  | .binary _ _ _ | .assign _ _ => false

def rank? : Frame → Option Nat
  | .binary _ _ op => some op.rank
  | .assign _ _ | .ret _ => none

/-- The node `f` can be below the node `g`: its operator went there. -/
def Below (f g : Frame) : Prop :=
  ∃ loc left op, f = .binary loc left op ∧ g.keepsAbove op = true

theorem Below.keepsAbove {f g : Frame} {op : Operator} (h : Below f g)
    (hf : f.keepsAbove op = true) : g.keepsAbove op = true := by
  obtain ⟨loc, left, fop, rfl, hg⟩ := h
  cases g with
  | assign => rfl
  | ret => rfl
  | binary gloc gleft gop =>
    simp only [Frame.keepsAbove, decide_eq_true_eq] at hf hg ⊢
    omega

theorem holes_fill {f : Frame} (hf : f.isFilled = true) (e : Expr) :
    (f.fill e).holes = e.holes := by
  cases f with
  | binary loc left op =>
    have hl : left.holes = 0 := left.holes_eq_zero_iff.mpr hf
    simp [fill, Expr.holes, hl]
  | assign => rfl
  | ret => rfl

theorem spineEnd_fill (f : Frame) (e : Expr) : (f.fill e).spineEnd = e.spineEnd := by
  cases f <;> rfl

theorem rightSpine_fill (f : Frame) (e : Expr) :
    (f.fill e).rightSpine = f.fill e :: e.rightSpine := by
  cases f <;> rfl

theorem rank?_fill (f : Frame) (e : Expr) : (f.fill e).rank? = f.rank? := by
  cases f <;> rfl

theorem isReturn_fill (f : Frame) (e : Expr) : (f.fill e).isReturn = f.isReturn := by
  cases f <;> rfl

theorem isHead_fill {f : Frame} (h : f.rank? = none) (e : Expr) : (f.fill e).isHead = true := by
  cases f with
  | binary => cases h
  | assign => rfl
  | ret => rfl

end Frame

/-! ### Nodes of a spine -/

namespace Draft

/-- The nodes that frames make above `e`, innermost first. -/
def nodes : List Frame → Expr → List Expr
  | [], _ => []
  | f :: spine, e => f.fill e :: nodes spine (f.fill e)

/-- What the slots of the spine hold, from the root on: the nodes, and the operand
once it is there. -/
def slots (d : Draft) : List Expr :=
  (nodes d.spine (d.operand.getD .hole)).reverse ++ d.operand.toList

theorem plug_cons (f : Frame) (s : List Frame) (e : Expr) :
    plug (f :: s) e = plug s (f.fill e) := rfl

/-- What frames keep, holds of the plugged tree. -/
theorem plug_induction {P : Expr → Prop} {s : List Frame} {e : Expr} (he : P e)
    (hs : ∀ f ∈ s, ∀ x, P x → P (f.fill x)) : P (plug s e) := by
  induction s generalizing e with
  | nil => exact he
  | cons f s ih =>
    have hf := hs f (List.mem_cons_self ..) e he
    exact ih hf fun g hg => hs g (List.mem_cons_of_mem _ hg)

theorem length_nodes (s : List Frame) (e : Expr) : (nodes s e).length = s.length := by
  induction s generalizing e with
  | nil => rfl
  | cons f s ih => simp only [nodes, List.length_cons, ih]

theorem nodes_append (s t : List Frame) (e : Expr) :
    nodes (s ++ t) e = nodes s e ++ nodes t (plug s e) := by
  induction s generalizing e with
  | nil => rfl
  | cons f s ih =>
    simp only [List.cons_append, nodes, ih]
    rfl

theorem map_rank?_nodes (s : List Frame) (e : Expr) :
    (nodes s e).map Expr.rank? = s.map Frame.rank? := by
  induction s generalizing e with
  | nil => rfl
  | cons f s ih => simp only [nodes, List.map_cons, ih, Frame.rank?_fill]

theorem mem_nodes {s : List Frame} {e x : Expr} (h : x ∈ nodes s e) :
    ∃ f ∈ s, ∃ y, x = f.fill y := by
  induction s generalizing e with
  | nil => cases h
  | cons f s ih =>
    rcases List.mem_cons.mp h with rfl | h
    · exact ⟨f, List.mem_cons_self .., e, rfl⟩
    · obtain ⟨g, hg, y, rfl⟩ := ih h
      exact ⟨g, List.mem_cons_of_mem _ hg, y, rfl⟩

theorem rightSpine_plug (s : List Frame) (e : Expr) :
    (plug s e).rightSpine = (nodes s e).reverse ++ e.rightSpine := by
  induction s generalizing e with
  | nil => rfl
  | cons f s ih =>
    rw [plug_cons, ih, Frame.rightSpine_fill]
    simp [nodes]

theorem spineEnd_plug (s : List Frame) (e : Expr) : (plug s e).spineEnd = e.spineEnd := by
  refine plug_induction (P := fun x => x.spineEnd = e.spineEnd) rfl ?_
  intro f _ x hx
  exact (f.spineEnd_fill x).trans hx

theorem holes_plug {s : List Frame} (hs : ∀ f ∈ s, f.isFilled = true) (e : Expr) :
    (plug s e).holes = e.holes := by
  refine plug_induction (P := fun x => x.holes = e.holes) rfl ?_
  intro f hf x hx
  exact (Frame.holes_fill (hs f hf) x).trans hx

theorem isComplete_plug {s : List Frame} (hs : ∀ f ∈ s, f.isFilled = true) (e : Expr) :
    (plug s e).isComplete = e.isComplete := by
  rw [Bool.eq_iff_iff, ← Expr.holes_eq_zero_iff, ← Expr.holes_eq_zero_iff, holes_plug hs]

/-! ### Order -/

/-- The frames of a spine are in order and the operand at its end is atomic. -/
structure Ordered (d : Draft) : Prop where
  below : d.spine.Pairwise Frame.Below
  filled : ∀ f ∈ d.spine, f.isFilled = true
  operand : ∀ e ∈ d.operand, e.isAtomic = true

theorem ordered_empty : Ordered .empty where
  below := .nil
  filled := by simp [empty]
  operand := by simp [empty]

theorem ordered_single {f : Frame} (hf : f.isFilled = true) : Ordered ⟨[f], none⟩ where
  below := List.pairwise_singleton _ _
  filled := by simpa using hf
  operand := by simp

theorem Ordered.attach {d : Draft} {e : Expr} (h : d.Ordered) (he : e.isAtomic = true) :
    Ordered { d with operand := some e } where
  below := h.below
  filled := h.filled
  operand := by simpa using he

theorem Ordered.isComplete_root {d : Draft} {e : Expr} (h : d.Ordered)
    (ho : d.operand = some e) : d.root.isComplete = true := by
  rw [root, ho, isComplete_plug h.filled]
  exact Expr.isComplete_of_isAtomic (h.operand e ho)

/-- An operator goes above the end of the spine, up to the first node that it goes
below, and it then goes below all nodes that are left. -/
theorem climb_eq (op : Operator) {s : List Frame} (hs : s.Pairwise Frame.Below) (e : Expr) :
    ∃ taken rest, s = taken ++ rest ∧ climb op s e = (rest, plug taken e) ∧
      (∀ f ∈ taken, f.keepsAbove op = false) ∧ ∀ f ∈ rest, f.keepsAbove op = true := by
  induction s generalizing e with
  | nil => exact ⟨[], [], rfl, rfl, by simp, by simp⟩
  | cons f s ih =>
    obtain ⟨hf, hs⟩ := List.pairwise_cons.mp hs
    cases hk : f.keepsAbove op with
    | true =>
      refine ⟨[], f :: s, rfl, by simp [climb, hk, plug], by simp, ?_⟩
      intro g hg
      rcases List.mem_cons.mp hg with rfl | hg
      · exact hk
      · exact (hf g hg).keepsAbove hk
    | false =>
      obtain ⟨taken, rest, rfl, hclimb, htaken, hrest⟩ := ih hs (f.fill e)
      refine ⟨f :: taken, rest, rfl, ?_, by simpa [hk] using htaken, hrest⟩
      simp only [climb, hk, Bool.false_eq_true, ite_false, hclimb]
      rfl

theorem Ordered.operator {d : Draft} {e : Expr} (h : d.Ordered) (ho : d.operand = some e)
    (loc : Location) (op : Operator) :
    Ordered ⟨.binary loc (climb op d.spine e).2 op :: (climb op d.spine e).1, none⟩ := by
  obtain ⟨taken, rest, hspine, hclimb, _, hrest⟩ := climb_eq op h.below e
  have hbelow := h.below
  have hfilled := h.filled
  rw [hspine] at hbelow hfilled
  have hleft : (plug taken e).isComplete = true := by
    rw [isComplete_plug fun f hf => hfilled f (List.mem_append_left _ hf)]
    exact Expr.isComplete_of_isAtomic (h.operand e ho)
  rw [hclimb]
  refine ⟨List.pairwise_cons.mpr ⟨fun g hg => ⟨loc, _, op, rfl, hrest g hg⟩, ?_⟩, ?_, by simp⟩
  · exact (List.pairwise_append.mp hbelow).2.1
  · intro f hf
    rcases List.mem_cons.mp hf with rfl | hf
    · exact hleft
    · exact hfilled f (List.mem_append_right _ hf)

/-! ### What order implies -/

theorem exists_heads {s : List Frame} (hs : s.Pairwise Frame.Below) :
    ∃ inner heads, ∃ ranks : List Nat, s = inner ++ heads ∧ heads.length ≤ 1 ∧
      (∀ f ∈ heads, f.rank? = none) ∧ inner.map Frame.rank? = ranks.map some ∧
      ranks.Pairwise (· > ·) := by
  induction s with
  | nil => exact ⟨[], [], [], rfl, by simp, by simp, rfl, .nil⟩
  | cons f s ih =>
    obtain ⟨hf, hs⟩ := List.pairwise_cons.mp hs
    cases s with
    | nil =>
      cases hr : f.rank? with
      | none => exact ⟨[], [f], [], rfl, by simp, by simpa using hr, rfl, .nil⟩
      | some r => exact ⟨[f], [], [r], rfl, by simp, by simp, by simp [hr], by simp⟩
    | cons g s =>
      obtain ⟨inner, heads, ranks, heq, hlen, hheads, hranks, hsorted⟩ := ih hs
      -- there is a frame further out, so this one is binary
      obtain ⟨loc, left, op, rfl, _⟩ := hf g (List.mem_cons_self ..)
      refine ⟨.binary loc left op :: inner, heads, op.rank :: ranks, by rw [heq]; rfl, hlen,
        hheads, by simp [Frame.rank?, hranks], List.pairwise_cons.mpr ⟨?_, hsorted⟩⟩
      intro r hr
      have hmem : some r ∈ inner.map Frame.rank? := by
        rw [hranks]
        exact List.mem_map_of_mem hr
      obtain ⟨f', hf', hr'⟩ := List.mem_map.mp hmem
      obtain ⟨_, _, _, heq', hk⟩ := hf f' (by rw [heq]; exact List.mem_append_left _ hf')
      cases heq'
      cases f' with
      | binary floc fleft fop =>
        cases hr'
        simpa [Frame.keepsAbove] using hk
      | assign => cases hr'
      | ret => cases hr'

theorem length_le_three {s : List Frame} (hs : s.Pairwise Frame.Below) : s.length ≤ 3 := by
  match s, hs with
  | [], _ => simp
  | [_], _ => simp
  | [_, _], _ => simp
  | [_, _, _], _ => simp
  | f₁ :: f₂ :: f₃ :: f₄ :: s, hs =>
    -- three binary nodes in a row would need three ranks
    simp only [List.pairwise_cons, List.mem_cons, forall_eq_or_imp] at hs
    obtain ⟨⟨h₁₂, -⟩, ⟨h₂₃, -⟩, ⟨h₃₄, -⟩, -⟩ := hs
    obtain ⟨_, _, op₁, rfl, hk₁⟩ := h₁₂
    obtain ⟨_, _, op₂, rfl, hk₂⟩ := h₂₃
    obtain ⟨_, _, op₃, rfl, _⟩ := h₃₄
    simp only [Frame.keepsAbove, decide_eq_true_eq] at hk₁ hk₂
    have hmax := op₁.rank_le_one
    omega

/-- First at most one return or assignment, then binary nodes of increasing rank. -/
def Rising (nodes : List Expr) : Prop :=
  ∃ heads binaries, ∃ ranks : List Nat, nodes = heads ++ binaries ∧
    heads.length ≤ 1 ∧ (∀ e ∈ heads, e.isHead = true) ∧
    binaries.map Expr.rank? = ranks.map some ∧ ranks.Pairwise (· < ·)

/-- A draft as its builder keeps it. -/
structure WellFormed (d : Draft) : Prop where
  /-- The slots of the spine are those of the right spine of the tree. -/
  spine : d.slots = d.root.rightSpine
  /-- They hold nodes in order, and the operand at the bottom if there is one. -/
  order : ∃ nodes, Rising nodes ∧ d.slots = nodes ++ d.operand.toList
  operand : ∀ e ∈ d.operand, e.isComplete = true
  /-- An operand is expected exactly if the tree has a hole, … -/
  expected : d.operand = none ↔ d.root.isComplete = false
  /-- … and then there is only this one, at the end of the right spine. -/
  hole : d.operand = none → d.root.holes = 1 ∧ d.root.spineEnd = .hole
  bounded : d.slots.length ≤ 4
  nonempty : d.root.isComplete = true → d.slots ≠ []

theorem Ordered.slots_eq {d : Draft} (h : d.Ordered) : d.slots = d.root.rightSpine := by
  rw [slots, root, rightSpine_plug]
  cases ho : d.operand with
  | none => rfl
  | some e => simp [Expr.rightSpine_of_isAtomic (h.operand e ho)]

theorem Ordered.operand_eq_none_iff {d : Draft} (h : d.Ordered) :
    d.operand = none ↔ d.root.isComplete = false := by
  cases ho : d.operand with
  | none => simp [root, ho, isComplete_plug h.filled, Expr.isComplete]
  | some e => simp [h.isComplete_root ho]

theorem rising_nodes {s : List Frame} (hs : s.Pairwise Frame.Below) (e : Expr) :
    Rising (nodes s e).reverse := by
  obtain ⟨inner, heads, ranks, rfl, hlen, hheads, hranks, hsorted⟩ := exists_heads hs
  -- frames are kept innermost first, slots from the root on
  refine ⟨(nodes heads (plug inner e)).reverse, (nodes inner e).reverse, ranks.reverse,
    ?_, ?_, ?_, ?_, ?_⟩
  · rw [nodes_append, List.reverse_append]
  · simpa [length_nodes] using hlen
  · intro x hx
    obtain ⟨f, hf, y, rfl⟩ := mem_nodes (List.mem_reverse.mp hx)
    exact Frame.isHead_fill (hheads f hf) y
  · rw [List.map_reverse, map_rank?_nodes, hranks, List.map_reverse]
  · exact List.pairwise_reverse.mpr hsorted

theorem Ordered.wellFormed {d : Draft} (h : d.Ordered) : d.WellFormed where
  spine := h.slots_eq
  order := ⟨_, rising_nodes h.below _, rfl⟩
  operand := fun e he => Expr.isComplete_of_isAtomic (h.operand e he)
  expected := h.operand_eq_none_iff
  hole := by
    intro ho
    simp only [root, ho, holes_plug h.filled, spineEnd_plug]
    exact ⟨rfl, rfl⟩
  bounded := by
    have hspine := length_le_three h.below
    have hoperand : d.operand.toList.length ≤ 1 := by cases d.operand <;> simp
    simp only [slots, List.length_append, List.length_reverse, length_nodes]
    omega
  nonempty := by
    intro hc
    cases ho : d.operand with
    | none => simp [h.operand_eq_none_iff.mp ho] at hc
    | some e => simp [slots, ho]

theorem Ordered.isReturn_slots {d : Draft} (h : d.Ordered)
    (hr : ∀ f ∈ d.spine, f.isReturn = false) : ∀ e ∈ d.slots, e.isReturn = false := by
  intro e he
  rcases List.mem_append.mp he with he | he
  · obtain ⟨f, hf, y, rfl⟩ := mem_nodes (List.mem_reverse.mp he)
    rw [Frame.isReturn_fill]
    exact hr f hf
  · exact Expr.isReturn_of_isAtomic (h.operand e (Option.mem_toList.mp he))

end Draft

end ArithCompiler
