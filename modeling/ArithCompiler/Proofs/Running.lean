import ArithCompiler.Proofs.Evaluation
import ArithCompiler.Proofs.Lowering
import ArithCompiler.Proofs.Machines

/-!
# Machines at a layout

A machine fits a layout if the registers it has defined and the slots it has
allocated are those of the layout. Code that may come at a layout then passes all
checks of the machine; what can still go wrong depends on values only
(`RunFault.IsOfValues`).
-/

namespace ArithCompiler

namespace Machine

structure Fits (m : Machine) (l : Layout) : Prop where
  registers : m.nextRegister = l.next
  slots : ∀ name, (m.slot? name).isSome = true ↔ name ∈ l.slots

theorem fits_initial : initial.Fits .initial where
  registers := rfl
  slots := by simp [initial, Layout.initial, slot?]

theorem Fits.slot?_eq_none {m : Machine} {l : Layout} (h : m.Fits l) {name : String}
    (hn : name ∉ l.slots) : m.slot? name = none := by
  rw [← h.slots, Bool.not_eq_true, Option.isSome_eq_false_iff, Option.isNone_iff_eq_none] at hn
  exact hn

theorem Fits.slot?_eq_some {m : Machine} {l : Layout} (h : m.Fits l) {name : String}
    (hn : name ∈ l.slots) : ∃ x, m.slot? name = some x :=
  Option.isSome_iff_exists.mp ((h.slots name).mpr hn)

/-! ### Changes -/

theorem nextRegister_push (m : Machine) (x : UInt32) :
    ({ m with registers := m.registers.push x } : Machine).nextRegister = m.nextRegister + 1 := by
  simp only [nextRegister, Array.size_push]
  omega

theorem Fits.push {m : Machine} {l : Layout} (h : m.Fits l) (x : UInt32) :
    ({ m with registers := m.registers.push x } : Machine).Fits { l with next := l.next + 1 } where
  registers := by rw [nextRegister_push, h.registers]
  slots := h.slots

theorem Fits.alloca {m : Machine} {l : Layout} (h : m.Fits l) (slot : String) (x : UInt32) :
    ({ m with slots := (slot, x) :: m.slots } : Machine).Fits
      { l with slots := slot :: l.slots } where
  registers := h.registers
  slots := by
    intro name
    rw [slot?_alloca, List.mem_cons, ← h.slots name]
    by_cases hn : name = slot <;> simp [hn]

theorem Fits.setSlot {m : Machine} {l : Layout} (h : m.Fits l) (slot : String) (x : UInt32) :
    (m.setSlot slot x).Fits l where
  registers := h.registers
  slots := by
    intro name
    rw [slot?_setSlot, ← h.slots name]
    by_cases hn : name = slot <;> simp [hn]

/-! ### Operands -/

theorem checkArg_of_usable {m : Machine} {l : Layout} (h : m.Fits l) {v : Operand}
    (hv : v.Usable l) : m.checkArg v = .ok () := by
  cases hv with
  | register h0 h1 =>
    have hsome := isSome_register? (m := m) h0 (by rw [h.registers]; exact h1)
    simp only [checkArg, Operand.ofRegister, gt_iff_lt, h0, ite_true, hsome]
  | immediate hd => simp [checkArg, Operand.ofImmediate, Operand.isSlot]

theorem eval_ofRegister {m : Machine} {n : Int} {x : UInt32} (hn : 0 < n)
    (h : m.register? n = some x) : m.eval (.ofRegister n) = .ok x := by
  simp only [eval, Operand.ofRegister, gt_iff_lt, hn, ite_true, h]

theorem eval_ofImmediate (m : Machine) {digits : String} (hd : Text.isNumeral digits = true) :
    m.eval (.ofImmediate digits) =
      if Text.decimal digits < UInt64.size then .ok (UInt32.ofNat (Text.decimal digits))
      else .error (.invalidImmediate digits .outOfRange) := by
  have hne := Text.ne_empty_of_isNumeral hd
  simp only [eval, Operand.ofImmediate, gt_iff_lt, Int.lt_irrefl, ite_false, hne, ne_eq,
    not_false_eq_true, ite_true, Text.readUnsigned_eq hd (show 0 < UInt64.size by decide)]
  by_cases hlt : Text.decimal digits < UInt64.size
  · simp only [hlt, ite_true]
  · simp only [hlt, ite_false]

end Machine

/-! ### Faults -/

/-- The faults that depend on values: a division by zero, and a numeral that is out
of range. -/
def RunFault.IsOfValues (f : RunFault) : Prop :=
  f = .divisionByZero ∨
    ∃ digits, UInt64.size ≤ Text.decimal digits ∧ f = .invalidImmediate digits .outOfRange

theorem Machine.apply_mnemonic (op : Operator) (x y : UInt32) :
    Machine.apply op.mnemonic x y =
      match op.result? x y with
      | some z => .ok z
      | none => .error .divisionByZero := by
  cases op with
  | add => rfl
  | sub => rfl
  | mul => rfl
  | div =>
    by_cases hy : y = 0
    · simp [apply, Operator.mnemonic, Operator.result?, hy]
    · simp [apply, Operator.mnemonic, Operator.result?, hy]

namespace Machine

theorem eval_of_usable {m : Machine} {l : Layout} (h : m.Fits l) {v : Operand}
    (hv : v.Usable l) : (∃ x, m.eval v = .ok x) ∨ ∃ f, m.eval v = .error f ∧ f.IsOfValues := by
  cases hv with
  | register h0 h1 =>
    have hsome := isSome_register? (m := m) h0 (by rw [h.registers]; exact h1)
    obtain ⟨x, hx⟩ := Option.isSome_iff_exists.mp hsome
    exact .inl ⟨x, eval_ofRegister h0 hx⟩
  | @immediate digits hd =>
    rw [eval_ofImmediate m hd]
    by_cases hlt : Text.decimal digits < UInt64.size
    · exact .inl ⟨_, if_pos hlt⟩
    · exact .inr ⟨_, if_neg hlt, .inr ⟨digits, by omega, rfl⟩⟩

theorem step_of_moves {m : Machine} {l l' : Layout} {i : Instr} (last : Bool) (h : m.Fits l)
    (hi : i.Moves l l') :
    (∃ m', m.step i last = .ok (.inl m') ∧ m'.Fits l') ∨
      ∃ f, m.step i last = .error f ∧ f.IsOfValues := by
  cases hi with
  | @alloca slot hs => exact .inl ⟨_, step_alloca last (h.slot?_eq_none hs), h.alloca slot 0⟩
  | load hs =>
    obtain ⟨x, hx⟩ := h.slot?_eq_some hs
    rw [← h.registers]
    exact .inl ⟨_, step_load last hx, h.registers ▸ h.push x⟩
  | @store v slot hv hs =>
    rw [step_store last (checkArg_of_usable h hv) ((h.slots slot).mpr hs)]
    rcases eval_of_usable h hv with ⟨x, hx⟩ | ⟨f, hf, hvalues⟩
    · exact .inl ⟨_, by rw [hx]; rfl, h.setSlot slot x⟩
    · exact .inr ⟨f, by rw [hf]; rfl, hvalues⟩
  | @binary op v w hv hw =>
    rw [← h.registers, step_binary last (checkArg_of_usable h hv) (checkArg_of_usable h hw)]
    rcases eval_of_usable h hv with ⟨x, hx⟩ | ⟨f, hf, hvalues⟩
    · rcases eval_of_usable h hw with ⟨y, hy⟩ | ⟨f, hf, hvalues⟩
      · simp only [hx, hy, Except.bind, apply_mnemonic]
        cases hz : op.result? x y with
        | some z => exact .inl ⟨_, rfl, h.registers ▸ h.push z⟩
        | none => exact .inr ⟨_, rfl, .inl rfl⟩
      · exact .inr ⟨f, by rw [hx, hf]; rfl, hvalues⟩
    · exact .inr ⟨f, by rw [hf]; rfl, hvalues⟩

theorem run_of_straight {m : Machine} {l l' : Layout} {code : List Instr} {w : Operand} (k : Nat)
    (h : m.Fits l) (hc : Straight l code l') (hw : w.Usable l') :
    (∃ x, m.run k (code ++ [.ret w]) = .ok x) ∨
      ∃ j i f, m.run k (code ++ [.ret w]) = .error (.atInstr j i f) ∧ f.IsOfValues := by
  induction hc generalizing m k with
  | nil l =>
    have hstep := step_ret (checkArg_of_usable h hw)
    rcases eval_of_usable h hw with ⟨x, hx⟩ | ⟨f, hf, hvalues⟩
    · rw [hx] at hstep
      exact .inl ⟨x, by simp [run, hstep, Except.map]⟩
    · rw [hf] at hstep
      exact .inr ⟨k, .ret w, f, by simp [run, hstep, Except.map], hvalues⟩
  | @cons l l₁ l' i code hi hc ih =>
    rcases step_of_moves (code ++ [Instr.ret w]).isEmpty h hi with
      ⟨m', hm', hfits⟩ | ⟨f, hf, hvalues⟩
    · simp only [List.cons_append, run, hm']
      exact ih (k + 1) hfits hw
    · exact .inr ⟨k, i, f, by simp only [List.cons_append, run, hf], hvalues⟩

end Machine

end ArithCompiler
