import ArithCompiler.Proofs.WellFormedCode

/-!
# Lowering after a failure

Trees can be lowered one by one, each from the layout that the one before hands on,
and also after one that failed. A tree that fails gives no code, but the slots that
were allocated before the failure stay in the layout; they are lost. In the code that
is there, a slot that is loaded or stored was allocated exactly once before, unless
it is lost, and then it was not allocated at all (`allocatedOnce_lowerEach_iff`).
-/

namespace ArithCompiler

/-- What lowering trees one by one leaves. -/
structure Session where
  /-- The code of the trees that were lowered. -/
  code : List Instr
  /-- The slots that trees which failed have put into the layout. -/
  lost : List String
deriving DecidableEq

/-- Lowers each tree from the layout that the one before hands on. -/
def lowerEach : List Expr → Layout → Session
  | [], _ => ⟨[], []⟩
  | e :: es, l =>
    match lower e l with
    | (.error _, l₁) =>
      let s := lowerEach es l₁
      ⟨s.code, l₁.slots.filter (· ∉ l.slots) ++ s.lost⟩
    | (.ok (code, _), l₁) =>
      let s := lowerEach es l₁
      ⟨code ++ s.code, s.lost⟩

/-- Every slot that is loaded or stored is allocated exactly once before. -/
def AllocatedOnce (code : List Instr) : Prop :=
  ∀ before i after slot, code = before ++ i :: after → i.touched? = some slot →
    before.count (.alloca slot) = 1

/-! ### Code and slots -/

/-- An instruction that may come when some slots are in the layout, and the slots
after it. -/
inductive Instr.Marks (s : List String) : Instr → List String → Prop
  | alloca {slot : String} (hs : slot ∉ s) : Marks s (.alloca slot) (slot :: s)
  | other {i : Instr} (hi : ∀ slot, i ≠ .alloca slot)
    (ht : ∀ slot, i.touched? = some slot → slot ∈ s) : Marks s i s

/-- Code between two sets of slots. On the way, slots can get lost: they are added
without an instruction. -/
inductive Follows : List String → List Instr → List String → List String → Prop
  | nil (s : List String) : Follows s [] [] s
  | instr {s s₁ s' lost : List String} {i : Instr} {code : List Instr} (hi : i.Marks s s₁)
    (h : Follows s₁ code lost s') : Follows s (i :: code) lost s'
  | lose {s s₁ s' names lost : List String} {code : List Instr} (hn : ∀ n ∈ names, n ∉ s)
    (hs : ∀ n, n ∈ s₁ ↔ n ∈ names ∨ n ∈ s) (h : Follows s₁ code lost s') :
    Follows s code (names ++ lost) s'

namespace Follows

theorem single {s s' : List String} {i : Instr} (h : i.Marks s s') : Follows s [i] [] s' :=
  .instr h (.nil s')

theorem append {s s₁ s' a b : List String} {c d : List Instr} (h : Follows s c a s₁)
    (h' : Follows s₁ d b s') : Follows s (c ++ d) (a ++ b) s' := by
  induction h with
  | nil => exact h'
  | instr hi _ ih => exact .instr hi (ih h')
  | lose hn hs _ ih =>
    rw [List.append_assoc]
    exact .lose hn hs (ih h')

theorem not_mem_lost {s s' lost : List String} {code : List Instr} (h : Follows s code lost s')
    {slot : String} (hs : slot ∈ s) : slot ∉ lost := by
  induction h with
  | nil => simp
  | instr hi _ ih =>
    cases hi with
    | alloca => exact ih (List.mem_cons_of_mem _ hs)
    | other => exact ih hs
  | lose hn hmem _ ih =>
    intro hlost
    rcases List.mem_append.mp hlost with hnames | hlost
    · exact hn slot hnames hs
    · exact ih ((hmem slot).mpr (.inr hs)) hlost

/-- A slot that is touched was there at first, or is lost, or was allocated once. -/
theorem count_before {s s' lost : List String} {code before after : List Instr} {i : Instr}
    {slot : String} (h : Follows s code lost s') (hcode : code = before ++ i :: after)
    (ht : i.touched? = some slot) :
    before.count (.alloca slot) + (if slot ∈ s then 1 else 0) +
      (if slot ∈ lost then 1 else 0) = 1 := by
  induction h generalizing before with
  | nil => simp at hcode
  | instr hi h ih =>
    cases before with
    | nil =>
      -- the instruction that touches the slot comes first
      cases hcode
      cases hi with
      | alloca => cases ht
      | other _ htouched =>
        have hs := htouched slot ht
        simp [hs, h.not_mem_lost hs]
    | cons j before =>
      cases hcode
      have hrest := ih rfl
      cases hi with
      | @alloca name hname =>
        by_cases heq : slot = name
        · subst heq
          simp only [List.mem_cons, true_or, ite_true] at hrest
          simp only [List.count_cons_self, hname, ite_false]
          omega
        · have hne : Instr.alloca name ≠ .alloca slot := by simpa using Ne.symm heq
          simpa [heq, List.count_cons_of_ne hne] using hrest
      | other hj _ =>
        rw [List.count_cons_of_ne (hj slot)]
        exact hrest
  | @lose s s₁ s' names lost code hn hs h ih =>
    have hrest := ih hcode
    by_cases hname : slot ∈ names
    · -- it is lost here, so it is neither there before nor lost again
      have hs₁ : slot ∈ s₁ := (hs slot).mpr (.inl hname)
      simpa [hs₁, h.not_mem_lost hs₁, hn slot hname, hname] using hrest
    · simpa [hs slot, hname] using hrest

end Follows

/-! ### Trees -/

theorem follows_readSlot {v : Operand} {l : Layout} (hv : v.isSlot = true → v.slot ∈ l.slots) :
    Follows l.slots (readSlot v l).1 [] (readSlot v l).2.2.slots := by
  unfold readSlot
  split
  · next hslot =>
    refine .single (.other (by simp) ?_)
    intro slot ht
    cases ht
    exact hv hslot
  · exact .nil l.slots

theorem follows_asOperand {e : Expr} {l l' : Layout} {code : List Instr} {w : Operand}
    (he : ∀ {code₀ v l₀}, lower e l = (.ok (code₀, v), l₀) →
      Follows l.slots code₀ [] l₀.slots ∧ (v.isSlot = true → v.slot ∈ l₀.slots))
    (h : asOperand e (lower e l) = (.ok (code, w), l')) : Follows l.slots code [] l'.slots := by
  obtain ⟨code₀, v, l₀, hlow, _, rfl, _, rfl⟩ := asOperand_eq_ok h
  obtain ⟨hcode, hv⟩ := he hlow
  exact hcode.append (follows_readSlot hv)

theorem follows_lower {e : Expr} {l l' : Layout} {code : List Instr} {v : Operand}
    (h : lower e l = (.ok (code, v), l')) :
    Follows l.slots code [] l'.slots ∧ (v.isSlot = true → v.slot ∈ l'.slots) := by
  induction e generalizing l l' code v with
  | hole => cases h
  | literal loc digits =>
    cases h
    exact ⟨.nil _, by simp [Operand.isSlot, Operand.ofImmediate]⟩
  | var loc name =>
    obtain ⟨hn, rfl, rfl, rfl⟩ := lower_var_eq_ok h
    refine ⟨.single (.other (by simp) ?_), by simp [Operand.isSlot, Operand.ofRegister]⟩
    intro slot ht
    cases ht
    exact hn
  | binary loc left op right ihl ihr =>
    obtain ⟨o, c₁, v₁, l₁, c₂, v₂, l₂, rfl, h₁, h₂, rfl, rfl, rfl⟩ := lower_binary_eq_ok h
    have hop : Instr.Marks l₂.slots (.binary l₂.next o.mnemonic v₁ v₂) l₂.slots :=
      .other (by simp) (by simp [Instr.touched?])
    have hcode := ((follows_asOperand ihl h₁).append (follows_asOperand ihr h₂)).append
      (.single hop)
    exact ⟨hcode, by simp [Operand.isSlot, Operand.ofRegister]⟩
  | assign loc name value ih =>
    obtain ⟨c, w, l₁, h₁, rfl, hslot⟩ := lower_assign_eq_ok h
    have hvalue := follows_asOperand ih h₁
    have hstore : ∀ {s : List String}, name ∈ s → Instr.Marks s (.store w name) s := by
      intro s hs
      refine .other (by simp) ?_
      intro slot ht
      cases ht
      exact hs
    rcases hslot with ⟨hn, rfl, rfl⟩ | ⟨hn, rfl, rfl⟩
    · exact ⟨hvalue.append (.single (hstore hn)), fun _ => hn⟩
    · have hmem : name ∈ name :: l₁.slots := List.mem_cons_self ..
      exact ⟨hvalue.append (.instr (.alloca hn) (.single (hstore hmem))), fun _ => hmem⟩
  | ret loc value ih =>
    -- a return yields nothing, so there is no slot to look at
    unfold lower at h
    split at h
    · cases h
    · next c w l₁ h₁ =>
      cases h
      have hret : Instr.Marks l'.slots (.ret w) l'.slots :=
        .other (by simp) (by simp [Instr.touched?])
      have hcode := (follows_asOperand ih h₁).append (.single hret)
      exact ⟨hcode, by simp [Operand.isSlot, Operand.none]⟩
  | group loc inner ih => exact ih h

theorem slots_asOperand (e : Expr) (r : Lowered × Layout) :
    (asOperand e r).2.slots = r.2.slots := by
  unfold asOperand
  split
  · rfl
  · split
    · rfl
    · exact slots_readSlot _ _

theorem subset_slots_asOperand {e : Expr} {l l' : Layout} {r : Lowered}
    (he : l.slots ⊆ (lower e l).2.slots) (h : asOperand e (lower e l) = (r, l')) :
    l.slots ⊆ l'.slots := by
  have hslots := slots_asOperand e (lower e l)
  rw [h] at hslots
  rw [hslots]
  exact he

/-- Slots stay in the layout, whether or not lowering succeeds. -/
theorem subset_slots_lower (e : Expr) (l : Layout) : l.slots ⊆ (lower e l).2.slots := by
  induction e generalizing l with
  | hole => exact List.Subset.refl _
  | literal => exact List.Subset.refl _
  | var loc name =>
    unfold lower
    split <;> exact List.Subset.refl _
  | binary loc left op right ihl ihr =>
    unfold lower
    split
    · next h₁ => exact subset_slots_asOperand (ihl l) h₁
    · next l₁ h₁ =>
      have hleft := subset_slots_asOperand (ihl l) h₁
      split
      · next h₂ => exact List.Subset.trans hleft (subset_slots_asOperand (ihr l₁) h₂)
      · next h₂ =>
        have hboth := List.Subset.trans hleft (subset_slots_asOperand (ihr l₁) h₂)
        split <;> exact hboth
  | assign loc name value ih =>
    unfold lower
    split
    · next h₁ => exact subset_slots_asOperand (ih l) h₁
    · next h₁ =>
      have hvalue := subset_slots_asOperand (ih l) h₁
      split
      · exact hvalue
      · exact List.subset_cons_of_subset _ hvalue
  | ret loc value ih =>
    unfold lower
    split
    · next h₁ => exact subset_slots_asOperand (ih l) h₁
    · next h₁ => exact subset_slots_asOperand (ih l) h₁
  | group loc inner ih => exact ih l

/-! ### Trees one by one -/

theorem follows_lowerEach (es : List Expr) (l : Layout) :
    ∃ s, Follows l.slots (lowerEach es l).code (lowerEach es l).lost s := by
  induction es generalizing l with
  | nil => exact ⟨l.slots, .nil _⟩
  | cons e es ih =>
    cases hlow : lower e l with
    | mk r l₁ =>
      obtain ⟨s, hrest⟩ := ih l₁
      refine ⟨s, ?_⟩
      cases r with
      | ok cv =>
        simp only [lowerEach, hlow]
        exact (follows_lower hlow).1.append hrest
      | error err =>
        have hsub := subset_slots_lower e l
        rw [hlow] at hsub
        simp only [lowerEach, hlow]
        refine .lose (by simp) ?_ hrest
        intro n
        by_cases hn : n ∈ l.slots
        · simp [hn, hsub hn]
        · simp [hn]

theorem count_before_lowerEach {es : List Expr} {first : Int} {before after : List Instr}
    {i : Instr} {slot : String}
    (hcode : (lowerEach es ⟨[], first⟩).code = before ++ i :: after)
    (ht : i.touched? = some slot) :
    before.count (.alloca slot) =
      if slot ∈ (lowerEach es ⟨[], first⟩).lost then 0 else 1 := by
  obtain ⟨s, h⟩ := follows_lowerEach es ⟨[], first⟩
  have hcount := h.count_before hcode ht
  simp only [List.not_mem_nil, ite_false] at hcount
  split at hcount
  · next hlost => rw [if_pos hlost]; omega
  · next hlost => rw [if_neg hlost]; omega

/-- When trees are lowered one by one, from no slots and any register on, the slots
that are touched are allocated exactly once before, except for lost ones, which are
not allocated. So all are allocated if and only if no lost slot is touched. -/
theorem allocatedOnce_lowerEach_iff (es : List Expr) (first : Int) :
    (∀ before i after slot, (lowerEach es ⟨[], first⟩).code = before ++ i :: after →
      i.touched? = some slot → before.count (.alloca slot) =
        if slot ∈ (lowerEach es ⟨[], first⟩).lost then 0 else 1) ∧
    (AllocatedOnce (lowerEach es ⟨[], first⟩).code ↔
      ∀ i ∈ (lowerEach es ⟨[], first⟩).code, ∀ slot, i.touched? = some slot →
        slot ∉ (lowerEach es ⟨[], first⟩).lost) := by
  refine ⟨fun before i after slot => count_before_lowerEach, ?_, ?_⟩
  · intro honce i hi slot ht hlost
    obtain ⟨before, after, hcode⟩ := List.append_of_mem hi
    have hcount := count_before_lowerEach hcode ht
    rw [if_pos hlost, honce before i after slot hcode ht] at hcount
    cases hcount
  · intro hkept before i after slot hcode ht
    have hi : i ∈ (lowerEach es ⟨[], first⟩).code := by simp [hcode]
    rw [count_before_lowerEach hcode ht, if_neg (hkept i hi slot ht)]

/-- The statements of `(a = 1) + b; a = 2`. -/
def retried : Program :=
  [.binary ⟨1, 9⟩ (.group ⟨1, 1⟩ (.assign ⟨1, 4⟩ "a" (.literal ⟨1, 6⟩ "1"))) (.known .add)
      (.var ⟨1, 11⟩ "b"),
    .assign ⟨1, 16⟩ "a" (.literal ⟨1, 18⟩ "2")]

/-- The first statement allocates `a` and fails at `b`. The second one then stores to
`a`, and there is no allocation. -/
theorem not_allocatedOnce_retried :
    (parse (Text.encode "(a = 1) + b; a = 2")).2 = .ok retried ∧
      lowerEach retried .initial = ⟨[.store (.ofImmediate "2") "a"], ["a"]⟩ ∧
      ¬ AllocatedOnce (lowerEach retried .initial).code := by
  have hcode : lowerEach retried .initial = ⟨[.store (.ofImmediate "2") "a"], ["a"]⟩ := by
    decide +kernel
  refine ⟨by decide +kernel, hcode, ?_⟩
  rw [hcode]
  intro honce
  cases honce [] (.store (.ofImmediate "2") "a") [] "a" rfl rfl

end ArithCompiler
