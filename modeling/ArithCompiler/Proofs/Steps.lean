import ArithCompiler.Proofs.Machines

/-!
# What one step can do

All ways in which an instruction can be run are listed once (`Machine.Does`), for any
machine and any instruction. A slot is looked up only after the check of the operands has
found it, so a slot that has a name is never missing (`Machine.run_ne_missingSlot`).
-/

namespace ArithCompiler

/-! ### Results and faults -/

theorem bind_eq_ok {ε α β : Type} {x : Except ε α} {f : α → Except ε β} {b : β} :
    (x >>= f) = .ok b ↔ ∃ a, x = .ok a ∧ f a = .ok b := by
  cases x <;> simp [bind, Except.bind]

theorem bind_eq_error {ε α β : Type} {x : Except ε α} {f : α → Except ε β} {e : ε} :
    (x >>= f) = .error e ↔ x = .error e ∨ ∃ a, x = .ok a ∧ f a = .error e := by
  cases x <;> simp [bind, Except.bind]

theorem throw_eq_ok {ε α : Type} {e : ε} {a : α} :
    (throw e : Except ε α) = .ok a ↔ False := by
  simp [throw, throwThe, MonadExceptOf.throw]

theorem pure_eq_ok {ε α : Type} {a b : α} : (pure a : Except ε α) = .ok b ↔ a = b := by
  simp [pure, Except.pure]

/-! ### Steps -/

namespace Machine

/-- All that an instruction can do to a machine when it can be run. -/
inductive Does (m : Machine) (last : Bool) : Instr → Machine ⊕ UInt32 → Prop
  | alloca {slot : String} (hs : m.slot? slot = none) :
    Does m last (.alloca slot) (.inl { m with slots := (slot, 0) :: m.slots })
  | load {r : Int} {slot : String} {x : UInt32} (hr : r = 0 ∨ r = m.nextRegister)
    (hs : m.slot? slot = some x) : Does m last (.load r slot) (.inl (m.define r x))
  | store {v : Operand} {slot : String} {x : UInt32} (hc : m.checkArg v = .ok ())
    (hv : m.eval v = .ok x) (hs : (m.slot? slot).isSome = true) :
    Does m last (.store v slot) (.inl (m.setSlot slot x))
  | binary {r : Int} {operation : String} {v w : Operand} {x y z : UInt32}
    (hr : r = 0 ∨ r = m.nextRegister) (hc : m.checkArg v = .ok ()) (hc' : m.checkArg w = .ok ())
    (hv : m.eval v = .ok x) (hw : m.eval w = .ok y) (hz : apply operation x y = .ok z) :
    Does m last (.binary r operation v w) (.inl (m.define r z))
  | ret {v : Operand} {x : UInt32} (hl : last = true) (hc : m.checkArg v = .ok ())
    (hv : m.eval v = .ok x) : Does m last (.ret v) (.inr x)

theorem checkArgs_eq_ok {m : Machine} {vs : List Operand} :
    m.checkArgs vs = .ok () ↔ ∀ v ∈ vs, m.checkArg v = .ok () := by
  induction vs with
  | nil => simp [checkArgs]
  | cons v vs ih =>
    rw [checkArgs]
    cases hv : m.checkArg v with
    | error e => simp [hv]
    | ok u => simp [hv, ih]

theorem wrongTarget_iff (m : Machine) (i : Instr) :
    (decide (i.target ≠ 0) && decide (i.target ≠ m.nextRegister)) = true ↔
      ¬ (i.target = 0 ∨ i.target = m.nextRegister) := by
  simp

theorem does_of_step {m : Machine} {last : Bool} {i : Instr} {r : Machine ⊕ UInt32}
    (h : m.step i last = .ok r) : m.Does last i r := by
  unfold step at h
  simp only [bind_eq_ok, apply_ite (· = Except.ok r), throw_eq_ok, false_and, exists_false,
    wrongTarget_iff, ite_not, if_false_right] at h
  obtain ⟨⟨⟩, hargs, hr, h⟩ := h
  rw [checkArgs_eq_ok] at hargs
  cases i with
  | alloca slot =>
    simp only [apply_ite (· = Except.ok r), throw_eq_ok, pure_eq_ok, if_false_left] at h
    obtain ⟨hs, rfl⟩ := h
    exact .alloca (by simpa using hs)
  | load n slot =>
    cases hs : m.slot? slot with
    | none => simp only [hs, throw_eq_ok] at h
    | some x =>
      simp only [hs, pure_eq_ok] at h
      subst h
      exact .load hr hs
  | store v slot =>
    simp only [bind_eq_ok, apply_ite (· = Except.ok r), throw_eq_ok, pure_eq_ok,
      if_false_right] at h
    obtain ⟨x, hx, hs, rfl⟩ := h
    exact .store (hargs v (by simp [Instr.args])) hx hs
  | binary n operation v w =>
    simp only [bind_eq_ok, pure_eq_ok] at h
    obtain ⟨x, hx, y, hy, z, hz, rfl⟩ := h
    exact .binary hr (hargs v (by simp [Instr.args])) (hargs w (by simp [Instr.args])) hx hy hz
  | ret v =>
    simp only [apply_ite (· = Except.ok r), bind_eq_ok, throw_eq_ok, pure_eq_ok,
      if_false_right] at h
    obtain ⟨hl, x, hx, rfl⟩ := h
    exact .ret hl (hargs v (by simp [Instr.args])) hx

theorem step_of_does {m : Machine} {last : Bool} {i : Instr} {r : Machine ⊕ UInt32}
    (h : m.Does last i r) : m.step i last = .ok r := by
  have hargs : m.checkArgs i.args = .ok () := by
    rw [checkArgs_eq_ok]
    cases h with
    | alloca => simp [Instr.args]
    | load hr hs => simp [Instr.args, checkArg_ofSlot, hs]
    | store hc hv hs => simp [Instr.args, checkArg_ofSlot hs, hc]
    | binary hr hc hc' => simp [Instr.args, hc, hc']
    | ret hl hc => simp [Instr.args, hc]
  have htarget : i.target = 0 ∨ i.target = m.nextRegister := by
    cases h with
    | load hr hs => exact hr
    | binary hr => exact hr
    | _ => exact .inl rfl
  unfold step
  simp only [bind_eq_ok, wrongTarget_iff, htarget, not_true_eq_false, ite_false]
  refine ⟨(), hargs, ?_⟩
  cases h with
  | alloca hs => simp [hs, pure, Except.pure]
  | load hr hs => simp [hs, pure, Except.pure]
  | store hc hv hs => simp [hv, hs, bind, Except.bind, pure, Except.pure]
  | binary hr hc hc' hv hw hz => simp [hv, hw, hz, bind, Except.bind, pure, Except.pure]
  | ret hl hc hv => simp [hl, hv, bind, Except.bind, pure, Except.pure]

theorem step_eq_ok_iff {m : Machine} {last : Bool} {i : Instr} {r : Machine ⊕ UInt32} :
    m.step i last = .ok r ↔ m.Does last i r :=
  ⟨does_of_step, step_of_does⟩

end Machine

/-! ### No slot is missing -/

/-- The slot that an instruction allocates, loads or stores. -/
def Instr.slot? : Instr → Option String
  | .alloca slot => some slot
  | .load _ slot => some slot
  | .store _ slot => some slot
  | .binary _ _ _ _ | .ret _ => none

namespace Machine

theorem checkArgs_ne_missingSlot (m : Machine) (vs : List Operand) :
    m.checkArgs vs ≠ .error .missingSlot := by
  induction vs with
  | nil => simp [checkArgs]
  | cons v vs ih =>
    rw [checkArgs]
    split
    · next e he =>
      rintro ⟨⟩
      unfold checkArg at he
      split at he
      · split at he <;> cases he
      · split at he
        · split at he <;> cases he
        · cases he
    · exact ih

theorem eval_ne_missingSlot (m : Machine) (v : Operand) : m.eval v ≠ .error .missingSlot := by
  unfold eval
  split
  · split <;> simp
  · split
    · split <;> simp
    · split <;> simp

theorem apply_ne_missingSlot (operation : String) (x y : UInt32) :
    apply operation x y ≠ .error .missingSlot := by
  unfold apply
  repeat' split
  all_goals simp

theorem isSome_slot?_of_checkArg {m : Machine} {slot : String} (hs : slot ≠ "")
    (h : m.checkArg (.ofSlot slot) = .ok ()) : (m.slot? slot).isSome = true := by
  cases hslot : m.slot? slot with
  | some x => rfl
  | none => simp [checkArg, Operand.ofSlot, Operand.isSlot, hs, hslot] at h

/-- A slot with a name is looked up only after the check has found it. -/
theorem step_ne_missingSlot (m : Machine) (last : Bool) {i : Instr}
    (hi : i.slot? ≠ some "") : m.step i last ≠ .error .missingSlot := by
  intro h
  unfold step at h
  rcases bind_eq_error.mp h with h | ⟨⟨⟩, hargs, h⟩
  · exact checkArgs_ne_missingSlot _ _ h
  rw [checkArgs_eq_ok] at hargs
  by_cases htarget : i.target = 0 ∨ i.target = m.nextRegister
  · simp only [wrongTarget_iff, htarget, not_true_eq_false, ite_false] at h
    cases i with
    | alloca slot =>
      dsimp only at h
      split at h <;> cases h
    | load n slot =>
      have hne : slot ≠ "" := fun heq => hi (congrArg some heq)
      have hsome := isSome_slot?_of_checkArg hne
        (hargs (.ofSlot slot) (by simp [Instr.args]))
      obtain ⟨x, hx⟩ := Option.isSome_iff_exists.mp hsome
      simp [hx, pure, Except.pure] at h
    | store v slot =>
      have hne : slot ≠ "" := fun heq => hi (congrArg some heq)
      have hsome := isSome_slot?_of_checkArg hne
        (hargs (.ofSlot slot) (by simp [Instr.args]))
      rcases bind_eq_error.mp h with h | ⟨x, _, h⟩
      · exact eval_ne_missingSlot m v h
      · simp [hsome, pure, Except.pure] at h
    | binary n operation v w =>
      rcases bind_eq_error.mp h with h | ⟨x, _, h⟩
      · exact eval_ne_missingSlot m v h
      rcases bind_eq_error.mp h with h | ⟨y, _, h⟩
      · exact eval_ne_missingSlot m w h
      rcases bind_eq_error.mp h with h | ⟨z, _, h⟩
      · exact apply_ne_missingSlot operation x y h
      · cases h
    | ret v =>
      dsimp only at h
      split at h
      · rcases bind_eq_error.mp h with h | ⟨x, _, h⟩
        · exact eval_ne_missingSlot m v h
        · cases h
      · cases h
  · simp only [wrongTarget_iff, htarget, not_false_eq_true, ite_true] at h
    cases h

theorem run_ne_missingSlot {code : List Instr}
    (hcode : ∀ i ∈ code, i.slot? ≠ some "") (m : Machine) (n k : Nat)
    (i : Instr) : m.run n code ≠ .error (.atInstr k i .missingSlot) := by
  induction code generalizing m n with
  | nil => simp [run]
  | cons j rest ih =>
    rw [run]
    split
    · next fault hfault =>
      rintro ⟨⟩
      exact step_ne_missingSlot m _ (hcode _ (List.mem_cons_self ..)) hfault
    · simp
    · exact ih (fun j hj => hcode j (List.mem_cons_of_mem _ hj)) _ _

end Machine

end ArithCompiler
