import ArithCompiler.Code.Lowering
import ArithCompiler.Proofs.Statements

/-!
# The code of trees, instruction by instruction

`Instr.Moves` says which instructions may come at a layout and which layout they
leave; `Straight` is a sequence of them without a return. Lowering a value gives
such code from the layout it is given to the one it hands on, and an operand that
can be read there (`straight_lower`). The slots of the layout are the names that
the lowered trees assign (`mem_slots_lower`).
-/

namespace ArithCompiler

/-! ### Successful lowering -/

theorem asOperand_eq_ok {e : Expr} {r : Lowered × Layout} {code : List Instr} {w : Operand}
    {l' : Layout} (h : asOperand e r = (.ok (code, w), l')) :
    ∃ code₀ v l₀, r = (.ok (code₀, v), l₀) ∧ v.isNone = false ∧
      code = code₀ ++ (readSlot v l₀).1 ∧ w = (readSlot v l₀).2.1 ∧ l' = (readSlot v l₀).2.2 := by
  obtain ⟨res, l₀⟩ := r
  cases res with
  | error err => simp [asOperand] at h
  | ok cv =>
    obtain ⟨code₀, v⟩ := cv
    by_cases hv : v.isNone = true
    · simp [asOperand, hv] at h
    · simp only [asOperand, hv, Bool.false_eq_true, ite_false, Prod.mk.injEq, Except.ok.injEq] at h
      obtain ⟨⟨rfl, rfl⟩, rfl⟩ := h
      exact ⟨code₀, v, l₀, rfl, by simpa using hv, rfl, rfl, rfl⟩

theorem lower_var_eq_ok {loc : Location} {name : String} {l l' : Layout} {code : List Instr}
    {v : Operand} (h : lower (.var loc name) l = (.ok (code, v), l')) :
    name ∈ l.slots ∧ code = [.load l.next name] ∧ v = .ofRegister l.next ∧
      l' = { l with next := l.next + 1 } := by
  by_cases hn : name ∈ l.slots
  · simp only [lower, hn, ite_true, Prod.mk.injEq, Except.ok.injEq] at h
    obtain ⟨⟨rfl, rfl⟩, rfl⟩ := h
    exact ⟨hn, rfl, rfl, rfl⟩
  · simp [lower, hn] at h

theorem lower_binary_eq_ok {loc : Location} {left right : Expr} {op : OpCode} {l l' : Layout}
    {code : List Instr} {v : Operand}
    (h : lower (.binary loc left op right) l = (.ok (code, v), l')) :
    ∃ o c₁ v₁ l₁ c₂ v₂ l₂, op = .known o ∧ asOperand left (lower left l) = (.ok (c₁, v₁), l₁) ∧
      asOperand right (lower right l₁) = (.ok (c₂, v₂), l₂) ∧
      code = c₁ ++ c₂ ++ [.binary l₂.next o.mnemonic v₁ v₂] ∧ v = .ofRegister l₂.next ∧
      l' = { l₂ with next := l₂.next + 1 } := by
  unfold lower at h
  split at h
  · cases h
  · next c₁ v₁ l₁ h₁ =>
    split at h
    · cases h
    · next c₂ v₂ l₂ h₂ =>
      split at h
      · cases h
      · next o =>
        simp only [Prod.mk.injEq, Except.ok.injEq] at h
        obtain ⟨⟨rfl, rfl⟩, rfl⟩ := h
        exact ⟨o, c₁, v₁, l₁, c₂, v₂, l₂, rfl, h₁, h₂, rfl, rfl, rfl⟩

theorem lower_assign_eq_ok {loc : Location} {name : String} {value : Expr} {l l' : Layout}
    {code : List Instr} {v : Operand}
    (h : lower (.assign loc name value) l = (.ok (code, v), l')) :
    ∃ c w l₁, asOperand value (lower value l) = (.ok (c, w), l₁) ∧ v = .ofSlot name ∧
      ((name ∈ l₁.slots ∧ code = c ++ [.store w name] ∧ l' = l₁) ∨
        (name ∉ l₁.slots ∧ code = c ++ [.alloca name, .store w name] ∧
          l' = { l₁ with slots := name :: l₁.slots })) := by
  unfold lower at h
  split at h
  · cases h
  · next c w l₁ h₁ =>
    by_cases hn : name ∈ l₁.slots
    · simp only [hn, ite_true, Prod.mk.injEq, Except.ok.injEq] at h
      obtain ⟨⟨rfl, rfl⟩, rfl⟩ := h
      exact ⟨c, w, l₁, h₁, rfl, .inl ⟨hn, rfl, rfl⟩⟩
    · simp only [hn, ite_false, Prod.mk.injEq, Except.ok.injEq] at h
      obtain ⟨⟨rfl, rfl⟩, rfl⟩ := h
      exact ⟨c, w, l₁, h₁, rfl, .inr ⟨hn, rfl, rfl⟩⟩

theorem lower_ret_eq_ok {loc : Location} {value : Expr} {l l' : Layout} {code : List Instr}
    {v : Operand} (h : lower (.ret loc value) l = (.ok (code, v), l')) :
    ∃ c w, asOperand value (lower value l) = (.ok (c, w), l') ∧ code = c ++ [.ret w] := by
  unfold lower at h
  split at h
  · cases h
  · next c w l₁ h₁ =>
    simp only [Prod.mk.injEq, Except.ok.injEq] at h
    obtain ⟨⟨rfl, rfl⟩, rfl⟩ := h
    exact ⟨c, w, h₁, rfl⟩

theorem lowerAll_cons_eq_ok {i : Nat} {last : Operand} {s : Expr} {rest : List Expr}
    {l l' : Layout} {body : Body} (h : lowerAll i last (s :: rest) l = (.ok body, l')) :
    ∃ code v l₁, lower s l = (.ok (code, v), l₁) ∧
      ((s.isReturn = true ∧ body = ⟨code, v, true, rest.length⟩ ∧ l' = l₁) ∨
        (s.isReturn = false ∧ ∃ body', lowerAll (i + 1) v rest l₁ = (.ok body', l') ∧
          body = { body' with code := code ++ body'.code })) := by
  unfold lowerAll at h
  split at h
  · cases h
  · next code v l₁ h₁ =>
    by_cases hs : s.isReturn = true
    · simp only [hs, ite_true, Prod.mk.injEq, Except.ok.injEq] at h
      obtain ⟨rfl, rfl⟩ := h
      exact ⟨code, v, l₁, h₁, .inl ⟨hs, rfl, rfl⟩⟩
    · simp only [hs, Bool.false_eq_true, ite_false] at h
      split at h
      · cases h
      · next body' l₂ h₂ =>
        cases h
        exact ⟨code, v, l₁, h₁, .inr ⟨by simpa using hs, body', h₂, rfl⟩⟩

theorem generate_eq_ok {p : Program} {name : String} {g : Generated} {l : Layout}
    (h : generate p name = (.ok g, l)) :
    ∃ body l₀, lowerAll 1 (.ofImmediate "0") p .initial = (.ok body, l₀) ∧
      g.function.registers = l.next - firstRegister ∧
      ((body.returned = true ∧ g.function.code = body.code ∧ l = l₀) ∨
        (body.returned = false ∧ l = (readSlot body.value l₀).2.2 ∧
          g.function.code = body.code ++ (readSlot body.value l₀).1 ++
            [.ret (readSlot body.value l₀).2.1])) := by
  unfold generate at h
  split at h
  · cases h
  · next body l₀ h₀ =>
    by_cases hr : body.returned = true
    · simp only [hr, ite_true, Prod.mk.injEq, Except.ok.injEq] at h
      obtain ⟨rfl, rfl⟩ := h
      exact ⟨body, l₀, h₀, rfl, .inl ⟨hr, rfl, rfl⟩⟩
    · simp only [hr, Bool.false_eq_true, ite_false, Prod.mk.injEq, Except.ok.injEq] at h
      obtain ⟨rfl, rfl⟩ := h
      exact ⟨body, l₀, h₀, rfl, .inr ⟨by simpa using hr, rfl, rfl⟩⟩

/-! ### Code and layouts -/

/-- The operands that can be read at a layout. -/
inductive Operand.Usable (l : Layout) : Operand → Prop
  | register {n : Int} (h0 : 0 < n) (h1 : n < l.next) : Usable l (.ofRegister n)
  | immediate {digits : String} (hd : Text.isNumeral digits = true) : Usable l (.ofImmediate digits)

/-- The operands that hold a result: those that can be read, and slots, which have
to be loaded first. -/
inductive Operand.Held (l : Layout) : Operand → Prop
  | usable {v : Operand} (hv : v.Usable l) : Held l v
  | slot {name : String} (hn : name ≠ "") (hs : name ∈ l.slots) : Held l (.ofSlot name)

/-- An instruction that may come at a layout, and the layout after it. -/
inductive Instr.Moves (l : Layout) : Instr → Layout → Prop
  | alloca {slot : String} (hs : slot ∉ l.slots) :
    Moves l (.alloca slot) { l with slots := slot :: l.slots }
  | load {slot : String} (hs : slot ∈ l.slots) :
    Moves l (.load l.next slot) { l with next := l.next + 1 }
  | store {v : Operand} {slot : String} (hv : v.Usable l) (hs : slot ∈ l.slots) :
    Moves l (.store v slot) l
  | binary {op : Operator} {v w : Operand} (hv : v.Usable l) (hw : w.Usable l) :
    Moves l (.binary l.next op.mnemonic v w) { l with next := l.next + 1 }

/-- Code without a return that takes one layout to another. -/
inductive Straight : Layout → List Instr → Layout → Prop
  | nil (l : Layout) : Straight l [] l
  | cons {l l₁ l' : Layout} {i : Instr} {code : List Instr} (hi : i.Moves l l₁)
    (hc : Straight l₁ code l') : Straight l (i :: code) l'

namespace Straight

theorem single {l l' : Layout} {i : Instr} (h : i.Moves l l') : Straight l [i] l' :=
  .cons h (.nil l')

theorem append {l l₁ l' : Layout} {a b : List Instr} (ha : Straight l a l₁)
    (hb : Straight l₁ b l') : Straight l (a ++ b) l' := by
  induction ha with
  | nil => exact hb
  | cons hi _ ih => exact .cons hi (ih hb)

theorem split {l l' : Layout} {a b : List Instr} (h : Straight l (a ++ b) l') :
    ∃ l₁, Straight l a l₁ ∧ Straight l₁ b l' := by
  induction a generalizing l with
  | nil => exact ⟨l, .nil l, h⟩
  | cons i a ih =>
    cases h with
    | cons hi hc =>
      obtain ⟨l₁, ha, hb⟩ := ih hc
      exact ⟨l₁, .cons hi ha, hb⟩

theorem next_le {l l' : Layout} {code : List Instr} (h : Straight l code l') :
    l.next ≤ l'.next := by
  induction h with
  | nil => exact Int.le_refl _
  | cons hi _ ih =>
    cases hi with
    | alloca => exact ih
    | load => dsimp only at ih; omega
    | store => exact ih
    | binary => dsimp only at ih; omega

theorem next_pos {l l' : Layout} {code : List Instr} (h : Straight l code l') (hl : 0 < l.next) :
    0 < l'.next :=
  Int.lt_of_lt_of_le hl h.next_le

theorem subset_slots {l l' : Layout} {code : List Instr} (h : Straight l code l') :
    l.slots ⊆ l'.slots := by
  induction h with
  | nil l => exact List.Subset.refl l.slots
  | cons hi _ ih =>
    cases hi with
    | alloca => exact List.subset_of_cons_subset ih
    | load => exact ih
    | store => exact ih
    | binary => exact ih

/-- Where an instruction stands, the registers so far are in use, and its slots stay. -/
theorem exists_moves {l l' : Layout} {code : List Instr} (h : Straight l code l') {i : Instr}
    (hi : i ∈ code) :
    ∃ l₁ l₂, i.Moves l₁ l₂ ∧ l.next ≤ l₁.next ∧ l₂.slots ⊆ l'.slots := by
  induction h with
  | nil => cases hi
  | @cons l l₁ l' j code hj hc ih =>
    rcases List.mem_cons.mp hi with rfl | hi
    · exact ⟨l, l₁, hj, Int.le_refl _, hc.subset_slots⟩
    · obtain ⟨l₂, l₃, hmoves, hnext, hslots⟩ := ih hi
      exact ⟨l₂, l₃, hmoves, Int.le_trans (single hj).next_le hnext, hslots⟩

end Straight

theorem Operand.Usable.mono {l l' : Layout} {v : Operand} (h : v.Usable l)
    (hl : l.next ≤ l'.next) : v.Usable l' := by
  cases h with
  | register h0 h1 => exact .register h0 (by omega)
  | immediate hd => exact .immediate hd

/-! ### Operands of instructions -/

theorem Operand.isSlot_of_usable {l : Layout} {v : Operand} (h : v.Usable l) :
    v.isSlot = false := by
  cases h <;> rfl

theorem Operand.isSlot_ofSlot {name : String} (hn : name ≠ "") :
    (Operand.ofSlot name).isSlot = true := by
  simp [Operand.isSlot, Operand.ofSlot, hn]

theorem Operand.isNone_of_usable {l : Layout} {v : Operand} (h : v.Usable l) :
    v.isNone = false := by
  cases h with
  | register h0 h1 =>
    simp only [Operand.isNone, Operand.ofRegister, Operand.none, beq_eq_false_iff_ne, ne_eq,
      Operand.mk.injEq, and_true]
    omega
  | immediate hd =>
    have hne := Text.ne_empty_of_isNumeral hd
    simp [Operand.isNone, Operand.ofImmediate, Operand.none, hne]

theorem Operand.isNone_of_held {l : Layout} {v : Operand} (h : v.Held l) : v.isNone = false := by
  cases h with
  | usable hv => exact Operand.isNone_of_usable hv
  | slot hn hs => simp [Operand.isNone, Operand.ofSlot, Operand.none, hn]

theorem straight_readSlot {v : Operand} {l : Layout} (hv : v.Held l) (hl : 0 < l.next) :
    Straight l (readSlot v l).1 (readSlot v l).2.2 ∧
      (readSlot v l).2.1.Usable (readSlot v l).2.2 := by
  cases hv with
  | usable hv =>
    simp only [readSlot, Operand.isSlot_of_usable hv]
    exact ⟨.nil l, hv⟩
  | slot hn hs =>
    simp only [readSlot, Operand.isSlot_ofSlot hn, ite_true]
    exact ⟨.single (.load hs), .register hl (by dsimp only; omega)⟩

theorem straight_asOperand {e : Expr} {l l' : Layout} {code : List Instr} {w : Operand}
    (hl : 0 < l.next)
    (he : ∀ {code₀ v l₀}, lower e l = (.ok (code₀, v), l₀) → Straight l code₀ l₀ ∧ v.Held l₀)
    (h : asOperand e (lower e l) = (.ok (code, w), l')) :
    Straight l code l' ∧ w.Usable l' := by
  obtain ⟨code₀, v, l₀, hlow, _, rfl, rfl, rfl⟩ := asOperand_eq_ok h
  obtain ⟨hcode, hv⟩ := he hlow
  obtain ⟨hreads, hw⟩ := straight_readSlot hv (hcode.next_pos hl)
  exact ⟨hcode.append hreads, hw⟩

/-! ### Values -/

theorem straight_lower {e : Expr} {l l' : Layout} {code : List Instr} {v : Operand}
    (he : e.isValue = true) (hl : 0 < l.next) (h : lower e l = (.ok (code, v), l')) :
    Straight l code l' ∧ v.Held l' := by
  induction e generalizing l l' code v with
  | hole => cases he
  | ret => cases he
  | literal loc digits =>
    simp only [lower, Prod.mk.injEq, Except.ok.injEq] at h
    obtain ⟨⟨rfl, rfl⟩, rfl⟩ := h
    exact ⟨.nil l, .usable (.immediate he)⟩
  | var loc name =>
    obtain ⟨hn, rfl, rfl, rfl⟩ := lower_var_eq_ok h
    exact ⟨.single (.load hn), .usable (.register hl (by dsimp only; omega))⟩
  | binary loc left op right ihl ihr =>
    simp only [Expr.isValue, Bool.and_eq_true] at he
    obtain ⟨o, c₁, v₁, l₁, c₂, v₂, l₂, rfl, h₁, h₂, rfl, rfl, rfl⟩ := lower_binary_eq_ok h
    obtain ⟨hc₁, hv₁⟩ := straight_asOperand hl (ihl he.1.1 hl) h₁
    have hl₁ := hc₁.next_pos hl
    obtain ⟨hc₂, hv₂⟩ := straight_asOperand hl₁ (ihr he.2 hl₁) h₂
    have hl₂ := hc₂.next_pos hl₁
    -- the left operand is still usable, because registers are only added
    have hop : Instr.Moves l₂ (.binary l₂.next o.mnemonic v₁ v₂) { l₂ with next := l₂.next + 1 } :=
      .binary (hv₁.mono hc₂.next_le) hv₂
    exact ⟨(hc₁.append hc₂).append (.single hop), .usable (.register hl₂ (by dsimp only; omega))⟩
  | assign loc name value ih =>
    simp only [Expr.isValue, Bool.and_eq_true] at he
    have hne := ne_empty_of_isName he.1
    obtain ⟨c, w, l₁, h₁, rfl, hslot⟩ := lower_assign_eq_ok h
    obtain ⟨hc, hw⟩ := straight_asOperand hl (ih he.2 hl) h₁
    rcases hslot with ⟨hn, rfl, rfl⟩ | ⟨hn, rfl, rfl⟩
    · exact ⟨hc.append (.single (.store hw hn)), .slot hne hn⟩
    · have hmem : name ∈ name :: l₁.slots := List.mem_cons_self ..
      have hstore : Instr.Moves { l₁ with slots := name :: l₁.slots } (.store w name)
          { l₁ with slots := name :: l₁.slots } := .store (hw.mono (Int.le_refl _)) hmem
      exact ⟨hc.append (.cons (.alloca hn) (.single hstore)), .slot hne hmem⟩
  | group loc inner ih =>
    simp only [lower] at h
    exact ih he hl h

/-! ### Programs -/

/-- Code that ends with its only return. -/
def Returns (l : Layout) (code : List Instr) (l' : Layout) : Prop :=
  ∃ c w, code = c ++ [.ret w] ∧ Straight l c l' ∧ w.Usable l'

theorem Returns.exists_moves {l l' : Layout} {code : List Instr} (h : Returns l code l') {i : Instr}
    (hi : i ∈ code) :
    (∃ l₁ l₂, i.Moves l₁ l₂ ∧ l.next ≤ l₁.next ∧ l₂.slots ⊆ l'.slots) ∨
      ∃ w, i = .ret w ∧ w.Usable l' := by
  obtain ⟨c, w, rfl, hc, hw⟩ := h
  rcases List.mem_append.mp hi with hi | hi
  · exact .inl (hc.exists_moves hi)
  · exact .inr ⟨w, List.mem_singleton.mp hi, hw⟩

theorem Returns.append_left {l l₁ l' : Layout} {a b : List Instr} (ha : Straight l a l₁)
    (hb : Returns l₁ b l') : Returns l (a ++ b) l' := by
  obtain ⟨c, w, rfl, hc, hw⟩ := hb
  exact ⟨a ++ c, w, (List.append_assoc ..).symm, ha.append hc, hw⟩

theorem returns_lower_ret {s : Expr} {l l' : Layout} {code : List Instr} {v : Operand}
    (hs : s.isStatement = true) (hr : s.isReturn = true) (hl : 0 < l.next)
    (h : lower s l = (.ok (code, v), l')) : Returns l code l' := by
  cases s with
  | ret loc value =>
    have hv : value.isValue = true := hs
    obtain ⟨c, w, hop, rfl⟩ := lower_ret_eq_ok h
    obtain ⟨hc, hw⟩ := straight_asOperand hl (straight_lower hv hl) hop
    exact ⟨c, w, rfl, hc, hw⟩
  | _ => cases hr

theorem Expr.isValue_of_isStatement {s : Expr} (hs : s.isStatement = true)
    (hr : s.isReturn = false) : s.isValue = true := by
  cases s with
  | ret => cases hr
  | _ => exact hs

theorem straight_lowerAll {i : Nat} {last : Operand} {p : List Expr} {l l' : Layout} {body : Body}
    (hp : ∀ s ∈ p, s.isStatement = true) (hl : 0 < l.next) (hlast : last.Held l)
    (h : lowerAll i last p l = (.ok body, l')) :
    if body.returned then Returns l body.code l'
    else Straight l body.code l' ∧ body.value.Held l' := by
  induction p generalizing i last l body with
  | nil =>
    simp only [lowerAll, Prod.mk.injEq, Except.ok.injEq] at h
    obtain ⟨rfl, rfl⟩ := h
    exact ⟨.nil l, hlast⟩
  | cons s rest ih =>
    have hs := hp s (List.mem_cons_self ..)
    obtain ⟨code, v, l₁, h₁, hcase⟩ := lowerAll_cons_eq_ok h
    rcases hcase with ⟨hr, rfl, rfl⟩ | ⟨hr, body', h₂, rfl⟩
    · exact returns_lower_ret hs hr hl h₁
    · obtain ⟨hc, hv⟩ := straight_lower (Expr.isValue_of_isStatement hs hr) hl h₁
      have hrest := ih (fun t ht => hp t (List.mem_cons_of_mem _ ht)) (hc.next_pos hl) hv h₂
      by_cases hb : body'.returned = true
      · rw [if_pos hb] at hrest ⊢
        exact hrest.append_left hc
      · rw [if_neg hb] at hrest ⊢
        exact ⟨hc.append hrest.1, hrest.2⟩

theorem returns_generate {p : Program} {name : String} {g : Generated} {l : Layout}
    (hp : ∀ s ∈ p, s.isStatement = true) (h : generate p name = (.ok g, l)) :
    Returns .initial g.function.code l ∧ g.function.registers = l.next - firstRegister := by
  obtain ⟨body, l₀, hall, hreg, hcase⟩ := generate_eq_ok h
  have hinit : 0 < Layout.initial.next := by decide
  have hbody := straight_lowerAll hp hinit (.usable (.immediate (by decide))) hall
  refine ⟨?_, hreg⟩
  rcases hcase with ⟨hr, hcode, rfl⟩ | ⟨hr, rfl, hcode⟩
  · rw [if_pos hr] at hbody
    rwa [hcode]
  · rw [if_neg (by simp [hr])] at hbody
    obtain ⟨hreads, hw⟩ := straight_readSlot hbody.2 (hbody.1.next_pos hinit)
    exact ⟨_, _, hcode, hbody.1.append hreads, hw⟩

/-! ### Slots -/

/-- The names that a tree assigns. -/
def Expr.assigned : Expr → List String
  | .hole | .literal _ _ | .var _ _ => []
  | .binary _ left _ right => left.assigned ++ right.assigned
  | .assign _ name value => value.assigned ++ [name]
  | .ret _ value => value.assigned
  | .group _ inner => inner.assigned

/-- The statements up to the first return, which is included. -/
def upToReturn : List Expr → List Expr
  | [] => []
  | s :: rest => if s.isReturn then [s] else s :: upToReturn rest

theorem slots_readSlot (v : Operand) (l : Layout) : (readSlot v l).2.2.slots = l.slots := by
  unfold readSlot
  split <;> rfl

theorem mem_slots_asOperand {e : Expr} {l l' : Layout} {code : List Instr} {w : Operand}
    {name : String}
    (he : ∀ {code₀ v l₀}, lower e l = (.ok (code₀, v), l₀) →
      (name ∈ l₀.slots ↔ name ∈ l.slots ∨ name ∈ e.assigned))
    (h : asOperand e (lower e l) = (.ok (code, w), l')) :
    name ∈ l'.slots ↔ name ∈ l.slots ∨ name ∈ e.assigned := by
  obtain ⟨code₀, v, l₀, hlow, _, _, _, rfl⟩ := asOperand_eq_ok h
  rw [slots_readSlot]
  exact he hlow

theorem mem_slots_lower {e : Expr} {l l' : Layout} {code : List Instr} {v : Operand}
    (name : String) (h : lower e l = (.ok (code, v), l')) :
    name ∈ l'.slots ↔ name ∈ l.slots ∨ name ∈ e.assigned := by
  induction e generalizing l l' code v with
  | hole => cases h
  | literal loc digits =>
    simp only [lower, Prod.mk.injEq] at h
    simp [← h.2, Expr.assigned]
  | var loc n =>
    obtain ⟨_, _, _, rfl⟩ := lower_var_eq_ok h
    simp [Expr.assigned]
  | binary loc left op right ihl ihr =>
    obtain ⟨o, c₁, v₁, l₁, c₂, v₂, l₂, rfl, h₁, h₂, rfl, rfl, rfl⟩ := lower_binary_eq_ok h
    have hleft := mem_slots_asOperand ihl h₁
    have hright := mem_slots_asOperand ihr h₂
    simp only [hright, hleft, Expr.assigned, List.mem_append, or_assoc]
  | assign loc n value ih =>
    obtain ⟨c, w, l₁, h₁, _, hslot⟩ := lower_assign_eq_ok h
    have hvalue := mem_slots_asOperand ih h₁
    simp only [Expr.assigned, List.mem_append, List.mem_singleton, ← or_assoc, ← hvalue]
    rcases hslot with ⟨hn, _, rfl⟩ | ⟨hn, _, rfl⟩
    · exact ⟨.inl, fun hor => hor.elim id (fun heq => heq ▸ hn)⟩
    · rw [List.mem_cons, or_comm]
  | ret loc value ih =>
    obtain ⟨c, w, h₁, _⟩ := lower_ret_eq_ok h
    have hvalue := mem_slots_asOperand ih h₁
    exact hvalue
  | group loc inner ih =>
    simp only [lower] at h
    exact ih h

theorem mem_slots_lowerAll {i : Nat} {last : Operand} {p : List Expr} {l l' : Layout} {body : Body}
    (name : String) (h : lowerAll i last p l = (.ok body, l')) :
    name ∈ l'.slots ↔ name ∈ l.slots ∨ name ∈ (upToReturn p).flatMap Expr.assigned := by
  induction p generalizing i last l body with
  | nil =>
    simp only [lowerAll, Prod.mk.injEq] at h
    simp [← h.2, upToReturn]
  | cons s rest ih =>
    obtain ⟨code, v, l₁, h₁, hcase⟩ := lowerAll_cons_eq_ok h
    have hs := mem_slots_lower name h₁
    rcases hcase with ⟨hr, _, rfl⟩ | ⟨hr, body', h₂, _⟩
    · simpa [upToReturn, hr] using hs
    · simp only [ih h₂, hs, upToReturn, hr, Bool.false_eq_true, ite_false, List.flatMap_cons,
        List.mem_append, or_assoc]

theorem mem_slots_generate {p : Program} {name : String} {g : Generated} {l : Layout}
    (n : String) (h : generate p name = (.ok g, l)) :
    n ∈ l.slots ↔ n ∈ (upToReturn p).flatMap Expr.assigned := by
  obtain ⟨body, l₀, hall, _, hcase⟩ := generate_eq_ok h
  have hslots : l.slots = l₀.slots := by
    rcases hcase with ⟨_, _, rfl⟩ | ⟨_, rfl, _⟩
    · rfl
    · exact slots_readSlot _ _
  have hmem := mem_slots_lowerAll n hall
  rw [hslots, hmem]
  simp [Layout.initial]

theorem isName_of_mem_assigned {s : Expr} (hs : s.isStatement = true) {x : String}
    (hx : x ∈ s.assigned) : isName x = true := by
  have hvalue : ∀ {e : Expr}, e.isValue = true → x ∈ e.assigned → isName x = true := by
    intro e he hx
    induction e with
    | hole => cases he
    | literal | var => cases hx
    | binary loc left op right ihl ihr =>
      simp only [Expr.isValue, Bool.and_eq_true] at he
      rcases List.mem_append.mp hx with hx | hx
      · exact ihl he.1.1 hx
      · exact ihr he.2 hx
    | assign loc name value ih =>
      simp only [Expr.isValue, Bool.and_eq_true] at he
      rcases List.mem_append.mp hx with hx | hx
      · exact ih he.2 hx
      · rw [List.mem_singleton.mp hx]
        exact he.1
    | ret => cases he
    | group loc inner ih => exact ih he hx
  cases s with
  | ret loc value => exact hvalue (e := value) hs hx
  | _ => exact hvalue hs hx

theorem upToReturn_subset (p : List Expr) : upToReturn p ⊆ p := by
  induction p with
  | nil => exact List.Subset.refl []
  | cons s rest ih =>
    unfold upToReturn
    split
    · exact List.cons_subset_cons s (List.nil_subset rest)
    · exact List.cons_subset_cons s ih

theorem isName_of_mem_slots {p : Program} {name : String} {g : Generated} {l : Layout}
    (hp : ∀ s ∈ p, s.isStatement = true) (h : generate p name = (.ok g, l)) :
    ∀ x ∈ l.slots, isName x = true := by
  intro x hx
  obtain ⟨s, hs, hassigned⟩ := List.mem_flatMap.mp ((mem_slots_generate x h).mp hx)
  exact isName_of_mem_assigned (hp s (upToReturn_subset p hs)) hassigned

end ArithCompiler
