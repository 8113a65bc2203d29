import ArithCompiler.Proofs.Running
import Mathlib.Control.Monad.Basic

/-!
# Compiled code is well formed

What the code of every text that compiles has in common: its registers are
numbered in order and read only after they are defined, its slots are allocated
once and before they are used, and its only return is the last instruction
(`Function.WellFormed`).
-/

namespace ArithCompiler

namespace Instr

/-- The register that a load or an operation defines. -/
def result? : Instr → Option Int
  | .load r _ => some r
  | .binary r _ _ _ => some r
  | .alloca _ | .store _ _ | .ret _ => none

/-- The operands whose values are used. -/
def values : Instr → List Operand
  | .alloca _ | .load _ _ => []
  | .store v _ => [v]
  | .binary _ _ v w => [v, w]
  | .ret v => [v]

/-- The slot that is loaded or stored. -/
def touched? : Instr → Option String
  | .load _ slot => some slot
  | .store _ slot => some slot
  | .alloca _ | .binary _ _ _ _ | .ret _ => none

def isReturn : Instr → Bool
  | .ret _ => true
  | .alloca _ | .load _ _ | .store _ _ | .binary _ _ _ _ => false

end Instr

/-- So many numbers in order from a first one on. -/
def consecutive (first : Int) : Nat → List Int
  | 0 => []
  | n + 1 => first :: consecutive (first + 1) n

theorem mem_consecutive {first r : Int} {n : Nat} :
    r ∈ consecutive first n ↔ first ≤ r ∧ r < first + n := by
  induction n generalizing first with
  | zero =>
    simp only [consecutive, List.not_mem_nil, false_iff]
    omega
  | succ n ih =>
    simp only [consecutive, List.mem_cons, ih]
    omega

/-- Code whose slots are those for some names. -/
structure Function.WellFormed (f : Function) (names : List String) : Prop where
  /-- The registers are numbered from one in the order in which they are defined. -/
  registers : ∃ n : Nat, f.registers = n ∧
    f.code.filterMap Instr.result? = consecutive 1 n
  /-- Every register that is read is defined by an earlier instruction. -/
  defined : ∀ before i after, f.code = before ++ i :: after → ∀ v ∈ i.args, 0 < v.register →
    ∃ j ∈ before, j.result? = some v.register
  /-- No operand is a slot or empty. -/
  values : ∀ i ∈ f.code, ∀ v ∈ i.values, v.isSlot = false ∧ v.isNone = false
  /-- Every slot that is touched is allocated exactly once, and that before. -/
  allocated : ∀ before i after slot, f.code = before ++ i :: after → i.touched? = some slot →
    Instr.alloca slot ∈ before ∧ f.code.count (.alloca slot) = 1
  /-- The slots are those of the names. -/
  slots : ∀ name, Instr.alloca name ∈ f.code ↔ name ∈ names
  /-- The last instruction is the only return. -/
  returns : ∃ code v, f.code = code ++ [.ret v] ∧ ∀ i ∈ code, i.isReturn = false

/-! ### One instruction -/

namespace Instr

theorem Moves.usable {l l' : Layout} {i : Instr} (h : i.Moves l l') :
    ∀ v ∈ i.values, v.Usable l := by
  cases h with
  | alloca => simp [values]
  | load => simp [values]
  | store hv hs => simpa [values] using hv
  | binary hv hw => simpa [values] using ⟨hv, hw⟩

theorem Moves.touched {l l' : Layout} {i : Instr} (h : i.Moves l l') {slot : String}
    (ht : i.touched? = some slot) : slot ∈ l.slots := by
  cases h with
  | alloca => cases ht
  | load hs => cases ht; exact hs
  | store hv hs => cases ht; exact hs
  | binary => cases ht

theorem Moves.isReturn {l l' : Layout} {i : Instr} (h : i.Moves l l') : i.isReturn = false := by
  cases h <;> rfl

theorem mem_values_of_register {i : Instr} {v : Operand} (hv : v ∈ i.args)
    (hr : 0 < v.register) : v ∈ i.values := by
  cases i with
  | alloca slot => exact hv
  | load r slot =>
    obtain rfl := List.mem_singleton.mp hv
    exact absurd hr (Int.lt_irrefl 0)
  | store w slot =>
    rcases List.mem_cons.mp hv with rfl | hv
    · exact List.mem_singleton.mpr rfl
    · obtain rfl := List.mem_singleton.mp hv
      exact absurd hr (Int.lt_irrefl 0)
  | binary r operation w w' => exact hv
  | ret w => exact hv

end Instr

/-! ### Sequences of instructions -/

namespace Straight

theorem isReturn {l l' : Layout} {code : List Instr} (h : Straight l code l') :
    ∀ i ∈ code, i.isReturn = false := by
  induction h with
  | nil => simp
  | cons hi _ ih =>
    intro j hj
    rcases List.mem_cons.mp hj with rfl | hj
    · exact hi.isReturn
    · exact ih j hj

theorem results {l l' : Layout} {code : List Instr} (h : Straight l code l') :
    ∃ n : Nat, l'.next = l.next + n ∧
      code.filterMap Instr.result? = consecutive l.next n := by
  induction h with
  | nil l => exact ⟨0, by simp, rfl⟩
  | cons hi _ ih =>
    obtain ⟨n, hnext, hres⟩ := ih
    cases hi with
    | alloca => exact ⟨n, hnext, hres⟩
    | store => exact ⟨n, hnext, hres⟩
    | load =>
      refine ⟨n + 1, by dsimp only at hnext; omega, ?_⟩
      simp only [List.filterMap_cons, Instr.result?, hres, consecutive]
    | binary =>
      refine ⟨n + 1, by dsimp only at hnext; omega, ?_⟩
      simp only [List.filterMap_cons, Instr.result?, hres, consecutive]

theorem count_alloca {l l' : Layout} {code : List Instr} (h : Straight l code l')
    (name : String) :
    code.count (.alloca name) + (if name ∈ l.slots then 1 else 0) =
      if name ∈ l'.slots then 1 else 0 := by
  -- only an allocation changes either side
  induction h with
  | nil => simp
  | cons hi _ ih =>
    cases hi with
    | @alloca slot hs =>
      by_cases hn : name = slot
      · subst hn
        simpa [hs] using ih
      · simpa [hn, Ne.symm hn, List.count_cons] using ih
    | load => simpa [List.count_cons] using ih
    | store => simpa [List.count_cons] using ih
    | binary => simpa [List.count_cons] using ih

theorem exists_result {l : Layout} {code : List Instr} (h : Straight .initial code l)
    {v : Operand} (hv : v.Usable l) (hr : 0 < v.register) :
    ∃ j ∈ code, j.result? = some v.register := by
  obtain ⟨n, hnext, hres⟩ := h.results
  cases hv with
  | @register r h0 h1 =>
    have hmem : r ∈ code.filterMap Instr.result? := by
      have hinit : Layout.initial.next = 1 := rfl
      rw [hres, mem_consecutive]
      omega
    exact List.mem_filterMap.mp hmem
  | immediate => exact absurd hr (Int.lt_irrefl 0)

end Straight

/-! ### Functions -/

theorem Returns.split {l : Layout} {code before after : List Instr} {i : Instr}
    (h : Returns .initial code l) (hcode : code = before ++ i :: after) :
    ∃ l₁, Straight .initial before l₁ ∧ (∀ v ∈ i.values, v.Usable l₁) ∧
      ∀ slot, i.touched? = some slot → slot ∈ l₁.slots := by
  obtain ⟨c, w, rfl, hc, hw⟩ := h
  rcases List.eq_nil_or_concat after with rfl | ⟨after, x, rfl⟩
  · -- the last instruction is the return
    obtain ⟨rfl, hi⟩ := List.append_inj' hcode rfl
    obtain rfl := List.singleton_inj.mp hi
    exact ⟨l, hc, by simpa [Instr.values] using hw, by simp [Instr.touched?]⟩
  · have hsplit : c ++ [.ret w] = (before ++ i :: after) ++ [x] := by
      simpa only [List.concat_eq_append, List.append_assoc, List.cons_append] using hcode
    obtain ⟨rfl, _⟩ := List.append_inj' hsplit rfl
    obtain ⟨l₁, hbefore, hrest⟩ := hc.split
    cases hrest with
    | cons hi _ => exact ⟨l₁, hbefore, hi.usable, fun slot ht => hi.touched ht⟩

theorem Returns.mem_usable {l : Layout} {code : List Instr} (h : Returns .initial code l)
    {i : Instr} (hi : i ∈ code) : ∀ v ∈ i.values, ∃ l₁, v.Usable l₁ := by
  obtain ⟨before, after, hcode⟩ := List.append_of_mem hi
  obtain ⟨l₁, _, husable, _⟩ := h.split hcode
  exact fun v hv => ⟨l₁, husable v hv⟩

theorem count_append_ret (code : List Instr) (w : Operand) (name : String) :
    (code ++ [Instr.ret w]).count (.alloca name) = code.count (Instr.alloca name) := by
  simp [List.count_append]

theorem Returns.count_alloca {l : Layout} {code : List Instr} (h : Returns .initial code l)
    (name : String) : code.count (.alloca name) = if name ∈ l.slots then 1 else 0 := by
  obtain ⟨c, w, rfl, hc, _⟩ := h
  have hcount := hc.count_alloca name
  rw [count_append_ret]
  simpa [Layout.initial] using hcount

theorem wellFormed_of_returns {f : Function} {l : Layout} {names : List String}
    (h : Returns .initial f.code l) (hr : f.registers = l.next - firstRegister)
    (hn : ∀ name, name ∈ l.slots ↔ name ∈ names) : f.WellFormed names where
  registers := by
    obtain ⟨c, w, hcode, hc, _⟩ := h
    obtain ⟨n, hnext, hres⟩ := hc.results
    have hinit : Layout.initial.next = 1 := rfl
    have hfirst : firstRegister = 1 := rfl
    refine ⟨n, by omega, ?_⟩
    rw [hcode, List.filterMap_append, hres, hinit]
    simp [Instr.result?]
  defined := by
    intro before i after hcode v hv hpos
    obtain ⟨l₁, hbefore, husable, _⟩ := h.split hcode
    exact hbefore.exists_result (husable v (Instr.mem_values_of_register hv hpos)) hpos
  values := by
    intro i hi v hv
    obtain ⟨l₁, hu⟩ := h.mem_usable hi v hv
    exact ⟨Operand.isSlot_of_usable hu, Operand.isNone_of_usable hu⟩
  allocated := by
    intro before i after slot hcode ht
    obtain ⟨l₁, hbefore, _, htouched⟩ := h.split hcode
    have hslot := htouched slot ht
    have hcount := hbefore.count_alloca slot
    simp only [Layout.initial, List.not_mem_nil, ite_false, Nat.add_zero, hslot, ite_true] at hcount
    have hmem : Instr.alloca slot ∈ before := List.count_pos_iff.mp (by omega)
    refine ⟨hmem, ?_⟩
    have hall := h.count_alloca slot
    have hpos : 0 < f.code.count (.alloca slot) := by
      rw [List.count_pos_iff, hcode]
      exact List.mem_append_left _ hmem
    split at hall <;> omega
  slots := by
    intro name
    rw [← hn name, ← List.count_pos_iff, h.count_alloca name]
    by_cases hs : name ∈ l.slots
    · simp only [hs, ite_true, Nat.zero_lt_one]
    · simp only [hs, ite_false, Nat.lt_irrefl]
  returns := by
    obtain ⟨c, w, hcode, hc, _⟩ := h
    exact ⟨c, w, hcode, hc.isReturn⟩

/-- The code of every text that compiles is well formed, its slots are those of the
names assigned up to the first return, and running it can fail only because of
values. -/
theorem compile_wellFormed {o : Options} {source : List UInt8} {c : Compiled}
    (h : (compile o source).2 = .ok c) :
    c.function.WellFormed ((upToReturn c.program).flatMap Expr.assigned) ∧
      ∀ e, c.function.run = .error e →
        ∃ k i, e = .atInstr k i .divisionByZero ∨
          ∃ digits, UInt64.size ≤ Text.decimal digits ∧
            e = .atInstr k i (.invalidImmediate digits .outOfRange) := by
  obtain ⟨ls, events, g, l, hscan, hbuild, hgen, hf⟩ := compile_eq_ok.mp h
  have hp := isStatement_of_build hscan hbuild
  obtain ⟨hret, hreg⟩ := returns_generate hp hgen
  rw [hf]
  refine ⟨wellFormed_of_returns hret hreg fun n => mem_slots_generate n hgen, ?_⟩
  intro e he
  obtain ⟨code, w, hcode, hc, hw⟩ := hret
  rw [Function.run, hcode] at he
  rcases Machine.run_of_straight 0 Machine.fits_initial hc hw with ⟨x, hx⟩ | ⟨k, i, f, hf, hv⟩
  · rw [hx] at he
    cases he
  · rw [hf] at he
    cases he
    refine ⟨k, i, ?_⟩
    rcases hv with rfl | ⟨digits, hlt, rfl⟩
    · exact .inl rfl
    · exact .inr ⟨digits, hlt, rfl⟩

/-- `a = 2; return (b = a) / (a - 2); c = 1`, compiled: `c` gets no slot. -/
def dividing : Compiled where
  program :=
    [.assign ⟨1, 3⟩ "a" (.literal ⟨1, 5⟩ "2"),
      .ret ⟨1, 8⟩ (.binary ⟨1, 23⟩
        (.group ⟨1, 15⟩ (.assign ⟨1, 18⟩ "b" (.var ⟨1, 20⟩ "a"))) (.known .div)
        (.group ⟨1, 25⟩ (.binary ⟨1, 28⟩ (.var ⟨1, 26⟩ "a") (.known .sub)
          (.literal ⟨1, 30⟩ "2")))),
      .assign ⟨1, 36⟩ "c" (.literal ⟨1, 38⟩ "1")]
  function :=
    ⟨"main", [.alloca "a", .store (.ofImmediate "2") "a", .load 1 "a", .alloca "b",
      .store (.ofRegister 1) "b", .load 2 "b", .load 3 "a",
      .binary 4 "sub" (.ofRegister 3) (.ofImmediate "2"),
      .binary 5 "udiv" (.ofRegister 2) (.ofRegister 4), .ret (.ofRegister 5)], 5⟩

theorem compile_wellFormed_dividing :
    (compile ⟨"", .untyped, .none⟩ (Text.encode "a = 2; return (b = a) / (a - 2); c = 1")).2 =
        .ok dividing ∧
      dividing.function.WellFormed ["a", "b"] ∧
      ∃ k i, dividing.function.run = .error (.atInstr k i .divisionByZero) := by
  have h : (compile ⟨"", .untyped, .none⟩
      (Text.encode "a = 2; return (b = a) / (a - 2); c = 1")).2 = .ok dividing := by
    decide +kernel
  refine ⟨h, (compile_wellFormed h).1, 8, .binary 5 "udiv" (.ofRegister 2) (.ofRegister 4), ?_⟩
  decide +kernel

end ArithCompiler
