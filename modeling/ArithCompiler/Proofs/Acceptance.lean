import ArithCompiler.Proofs.Tracking
import Mathlib.Data.List.Induction

/-!
# Which code runs

Running checks code instruction by instruction. Here the checks are put together: code
runs to a value if and only if it is well formed as a whole and divides by zero nowhere
(`Runnable`).
-/

namespace ArithCompiler

/-- Code that passes all checks of a machine and divides by zero nowhere. -/
structure Runnable (code : List Instr) : Prop where
  /-- The registers are numbered from one in the order in which they are defined. -/
  results : ∃ n, results code = consecutive 1 n
  /-- Every register that is read is defined by an earlier instruction. -/
  defined : ∀ before i after, code = before ++ i :: after → ∀ v ∈ i.values, 0 < v.register →
    ∃ j ∈ before, j.target = v.register
  /-- Every slot that is loaded or stored is allocated by an earlier instruction. -/
  allocated : ∀ before i after, code = before ++ i :: after →
    ∀ slot, i.touched? = some slot → Instr.alloca slot ∈ before
  /-- No slot is allocated twice. -/
  fresh : ∀ before slot after, code = before ++ .alloca slot :: after →
    Instr.alloca slot ∉ before
  /-- No operand is a slot. -/
  values : ∀ i ∈ code, ∀ v ∈ i.values, v.isSlot = false
  /-- Every immediate is a decimal number below `2 ^ 64`. -/
  immediates : ∀ i ∈ code, ∀ v ∈ i.values, v.immediate ≠ "" →
    Text.isNumeral v.immediate = true ∧ Text.decimal v.immediate < UInt64.size
  /-- Every operation is one of the four. -/
  operations : ∀ r operation v w, Instr.binary r operation v w ∈ code → operation ∈ operations
  /-- No division is by zero. -/
  divisors : ∀ before r v w after, code = before ++ .binary r "udiv" v w :: after →
    (Memory.run before).word w ≠ 0
  /-- The last instruction is the only return. -/
  returns : ∃ body v, code = body ++ [.ret v] ∧ ∀ i ∈ body, i.isReturn = false

/-! ### Runs -/

/-- Code that runs after other code, and its result. -/
inductive Runs : List Instr → List Instr → UInt32 → Prop
  | ret {before : List Instr} {v : Operand} (hv : v.Accepted before) :
    Runs before [.ret v] ((Memory.run before).word v)
  | cons {before code : List Instr} {i : Instr} {x : UInt32} (hr : i.isReturn = false)
    (hi : i.Accepted before) (h : Runs (before ++ [i]) code x) : Runs before (i :: code) x

theorem Machine.Reflects.run_eq_ok_iff {m : Machine} {before code : List Instr} (k : Nat)
    {x : UInt32} (h : m.Reflects before) (hcode : ∀ i ∈ code, i.IsPlain) :
    m.run k code = .ok x ↔ Runs before code x := by
  induction code generalizing m before k with
  | nil =>
    simp only [run, reduceCtorEq, false_iff]
    rintro ⟨⟩
  | cons i rest ih =>
    have hi := hcode i (List.mem_cons_self ..)
    have hrest : ∀ j ∈ rest, j.IsPlain := fun j hj => hcode j (List.mem_cons_of_mem _ hj)
    rw [run]
    constructor
    · intro hrun
      split at hrun
      · cases hrun
      · next y hy =>
        cases hrun
        cases step_eq_ok_iff.mp hy with
        | @ret v _ hl hc hv =>
          obtain rfl : rest = [] := by simpa using hl
          obtain ⟨hv', rfl⟩ := (h.eval_iff (hi.2 v (by simp [Instr.values]))).mp ⟨hc, hv⟩
          exact .ret hv'
      · next m' hm' =>
        have hd := step_eq_ok_iff.mp hm'
        obtain ⟨ha, h'⟩ := h.of_does hi hd
        have hr : i.isReturn = false := by cases hd <;> rfl
        exact .cons hr ha ((ih (k + 1) h' hrest).mp hrun)
    · intro hruns
      cases hruns with
      | @ret _ v hv =>
        obtain ⟨hc, hx⟩ := (h.eval_iff (hi.2 v (by simp [Instr.values]))).mpr ⟨hv, rfl⟩
        have hd : m.Does ([] : List Instr).isEmpty (.ret v) (.inr _) := .ret rfl hc hx
        rw [step_eq_ok_iff.mpr hd]
      | cons hr ha hruns =>
        obtain ⟨m', hd⟩ := h.exists_does rest.isEmpty hi ha hr
        obtain ⟨_, h'⟩ := h.of_does hi hd
        rw [step_eq_ok_iff.mpr hd]
        exact (ih (k + 1) h' hrest).mpr hruns

/-! ### Whole code -/

theorem Runs.accepted {before code a b : List Instr} {i : Instr} {x : UInt32}
    (h : Runs before code x) (hcode : code = a ++ i :: b) : i.Accepted (before ++ a) := by
  induction h generalizing a with
  | ret hv =>
    cases a with
    | nil =>
      obtain ⟨rfl, _⟩ := List.cons.inj hcode
      rw [List.append_nil]
      exact .ret hv
    | cons j a => simp at hcode
  | cons hr hi _ ih =>
    cases a with
    | nil =>
      obtain ⟨rfl, _⟩ := List.cons.inj hcode
      rwa [List.append_nil]
    | cons j a =>
      obtain ⟨rfl, htail⟩ := List.cons.inj hcode
      have hrest := ih htail
      rwa [List.append_assoc, List.singleton_append] at hrest

theorem Runs.returns {before code : List Instr} {x : UInt32} (h : Runs before code x) :
    ∃ body v, code = body ++ [.ret v] ∧ (∀ i ∈ body, i.isReturn = false) ∧
      x = (Memory.run (before ++ body)).word v := by
  induction h with
  | @ret before v hv => exact ⟨[], v, rfl, by simp, by rw [List.append_nil]⟩
  | @cons before code i x hr hi h ih =>
    obtain ⟨body, v, rfl, hbody, rfl⟩ := ih
    refine ⟨i :: body, v, rfl, ?_, ?_⟩
    · intro j hj
      rcases List.mem_cons.mp hj with rfl | hj
      · exact hr
      · exact hbody j hj
    · rw [List.append_assoc, List.singleton_append]

theorem runs_of_accepted {before body : List Instr} {v : Operand}
    (hbody : ∀ i ∈ body, i.isReturn = false)
    (h : ∀ a i b, body ++ [.ret v] = a ++ i :: b → i.Accepted (before ++ a)) :
    ∃ x, Runs before (body ++ [.ret v]) x := by
  induction body generalizing before with
  | nil =>
    have hret := h [] (.ret v) [] rfl
    rw [List.append_nil] at hret
    cases hret with
    | ret hv => exact ⟨_, .ret hv⟩
  | cons i body ih =>
    have hi := h [] i (body ++ [.ret v]) rfl
    rw [List.append_nil] at hi
    have hrest : ∀ a j b, body ++ [.ret v] = a ++ j :: b → j.Accepted (before ++ [i] ++ a) := by
      intro a j b hcode
      have hj := h (i :: a) j b (by rw [List.cons_append, hcode, List.cons_append])
      rwa [List.append_assoc, List.singleton_append]
    obtain ⟨x, hruns⟩ := ih (fun j hj => hbody j (List.mem_cons_of_mem _ hj)) hrest
    exact ⟨x, .cons (hbody i (List.mem_cons_self ..)) hi hruns⟩

theorem consecutive_eq_append {first r : Int} {n : Nat} {a b : List Int}
    (h : consecutive first n = a ++ r :: b) : r = first + a.length := by
  induction a generalizing first n with
  | nil =>
    cases n with
    | zero => cases h
    | succ n =>
      obtain ⟨rfl, _⟩ := List.cons.inj h
      simp
  | cons s a ih =>
    cases n with
    | zero => cases h
    | succ n =>
      obtain ⟨_, h⟩ := List.cons.inj h
      rw [ih h, List.length_cons]
      omega

/-- The results are numbered in order if and only if each of them has the number that
follows those before it. -/
theorem results_eq_consecutive_iff (code : List Instr) :
    (∃ n, results code = consecutive 1 n) ↔
      ∀ before i after, code = before ++ i :: after →
        i.target = 0 ∨ i.target = ((results before).length + 1 : Int) := by
  constructor
  · rintro ⟨n, hn⟩ before i after rfl
    by_cases h0 : i.target = 0
    · exact .inl h0
    · have hsplit : results (before ++ i :: after) = results before ++ i.target :: results after := by
        simp [results, h0]
      rw [hsplit] at hn
      rw [consecutive_eq_append hn.symm]
      exact .inr (Int.add_comm ..)
  · intro h
    induction code using List.reverseRecOn with
    | nil => exact ⟨0, rfl⟩
    | append_singleton code i ih =>
      obtain ⟨n, hn⟩ := ih fun before j after hcode =>
        h before j (after ++ [i]) (by rw [hcode, List.append_assoc, List.cons_append])
      rw [results_concat, hn]
      rcases h code i [] rfl with h0 | hnext
      · exact ⟨n, by rw [if_pos h0, List.append_nil]⟩
      · have h0 : i.target ≠ 0 := by omega
        refine ⟨n + 1, ?_⟩
        rw [hn, length_consecutive] at hnext
        rw [if_neg h0, consecutive_succ, hnext, Int.add_comm]

theorem Runnable.accepted {code before after : List Instr} {i : Instr} (h : Runnable code)
    (hcode : code = before ++ i :: after) : i.Accepted before := by
  have hi : i ∈ code := by simp [hcode]
  have htarget := (results_eq_consecutive_iff code).mp h.results before i after hcode
  have hvalues : ∀ v ∈ i.values, v.Accepted before := fun v hv =>
    ⟨h.defined before i after hcode v hv, h.values i hi v hv, h.immediates i hi v hv⟩
  cases i with
  | alloca slot => exact .alloca (h.fresh before slot after hcode)
  | load r slot => exact .load htarget (h.allocated before _ after hcode slot rfl)
  | store v slot =>
    exact .store (hvalues v (by simp [Instr.values])) (h.allocated before _ after hcode slot rfl)
  | binary r operation v w =>
    refine .binary htarget (hvalues v (by simp [Instr.values])) (hvalues w (by simp [Instr.values]))
      (h.operations r operation v w hi) ?_
    rintro rfl
    exact h.divisors before r v w after hcode
  | ret v => exact .ret (hvalues v (by simp [Instr.values]))

theorem Instr.Accepted.value {before : List Instr} {i : Instr} (h : i.Accepted before) :
    ∀ v ∈ i.values, v.Accepted before := by
  cases h with
  | alloca => simp [Instr.values]
  | load => simp [Instr.values]
  | store hv => simpa [Instr.values] using hv
  | binary hr hv hw => simpa [Instr.values] using ⟨hv, hw⟩
  | ret hv => simpa [Instr.values] using hv

theorem Instr.Accepted.target {before : List Instr} {i : Instr} (h : i.Accepted before) :
    i.target = 0 ∨ i.target = (results before).length + 1 := by
  cases h with
  | load hr => exact hr
  | binary hr => exact hr
  | _ => exact .inl rfl

theorem Instr.Accepted.touched {before : List Instr} {i : Instr} (h : i.Accepted before)
    {slot : String} (ht : i.touched? = some slot) : Instr.alloca slot ∈ before := by
  cases h with
  | load hr hs => cases ht; exact hs
  | store hv hs => cases ht; exact hs
  | _ => cases ht

theorem runnable_of_runs {code : List Instr} {x : UInt32} (h : Runs [] code x) :
    Runnable code := by
  have haccepted : ∀ before i after, code = before ++ i :: after → i.Accepted before :=
    fun before i after hcode => h.accepted hcode
  have hvalue : ∀ i ∈ code, ∀ v ∈ i.values, ∃ before, v.Accepted before := by
    intro i hi v hv
    obtain ⟨before, after, hcode⟩ := List.append_of_mem hi
    exact ⟨before, (haccepted before i after hcode).value v hv⟩
  refine ⟨?_, ?_, ?_, ?_, ?_, ?_, ?_, ?_, ?_⟩
  · exact (results_eq_consecutive_iff code).mpr fun before i after hcode =>
      (haccepted before i after hcode).target
  · intro before i after hcode v hv
    exact ((haccepted before i after hcode).value v hv).defined
  · intro before i after hcode slot ht
    exact (haccepted before i after hcode).touched ht
  · intro before slot after hcode
    cases haccepted before _ after hcode with
    | alloca hs => exact hs
  · intro i hi v hv
    obtain ⟨before, hv'⟩ := hvalue i hi v hv
    exact hv'.notSlot
  · intro i hi v hv
    obtain ⟨before, hv'⟩ := hvalue i hi v hv
    exact hv'.immediate
  · intro r operation v w hi
    obtain ⟨before, after, hcode⟩ := List.append_of_mem hi
    cases haccepted before _ after hcode with
    | binary hr hv hw ho hd => exact ho
  · intro before r v w after hcode
    cases haccepted before _ after hcode with
    | binary hr hv hw ho hd => exact hd rfl
  · obtain ⟨body, v, hcode, hbody, _⟩ := h.returns
    exact ⟨body, v, hcode, hbody⟩

theorem runnable_iff_runs (code : List Instr) : Runnable code ↔ ∃ x, Runs [] code x := by
  constructor
  · intro h
    obtain ⟨body, v, rfl, hbody⟩ := h.returns
    exact runs_of_accepted hbody fun a i b hcode => h.accepted hcode
  · rintro ⟨x, h⟩
    exact runnable_of_runs h

/-- Code whose slots have names and whose operands have one field each never touches a slot
that is not there. It runs to a value if and only if it is runnable, and the value is the
word that its return gives in an execution without checks. -/
theorem run_eq_ok_iff_runnable (f : Function) (hf : ∀ i ∈ f.code, i.IsPlain) :
    (∀ k i, f.run ≠ .error (.atInstr k i .missingSlot)) ∧
      ((∃ x, f.run = .ok x) ↔ Runnable f.code) ∧
      ∀ body v, f.code = body ++ [.ret v] → ∀ x, f.run = .ok x →
        x = ((Memory.run body).word v).toInt32 := by
  have hrun : ∀ x, Machine.initial.run 0 f.code = .ok x ↔ Runs [] f.code x :=
    fun x => Machine.reflects_initial.run_eq_ok_iff 0 hf
  have hok : ∀ y, f.run = .ok y ↔ ∃ x, Runs [] f.code x ∧ y = x.toInt32 := by
    intro y
    simp only [← hrun, Function.run]
    cases Machine.initial.run 0 f.code with
    | error e => simp [Except.map]
    | ok x => simp [Except.map, eq_comm]
  refine ⟨?_, ?_, ?_⟩
  · intro k i herr
    have hnot := Machine.run_ne_missingSlot (fun j hj => (hf j hj).1) .initial 0 k i
    unfold Function.run at herr
    cases hm : Machine.initial.run 0 f.code with
    | ok x => simp [hm, Except.map] at herr
    | error e =>
      rw [hm] at hnot herr
      cases herr
      exact hnot rfl
  · simp only [hok, runnable_iff_runs]
    constructor
    · rintro ⟨y, x, hx, _⟩
      exact ⟨x, hx⟩
    · rintro ⟨x, hx⟩
      exact ⟨_, x, hx, rfl⟩
  · intro body v hcode y hy
    obtain ⟨x, hx, rfl⟩ := (hok y).mp hy
    obtain ⟨body', v', hcode', _, rfl⟩ := hx.returns
    obtain ⟨rfl, hret⟩ := List.append_inj' (hcode.symm.trans hcode') rfl
    cases hret
    rfl

/-- Code that squares a value into no register and then halves it: the divisor is `2` modulo
`2 ^ 32`. -/
def halving : Function :=
  ⟨"main", [.alloca "a", .store (.ofImmediate "7") "a", .load 1 "a",
    .binary 0 "mul" (.ofRegister 1) (.ofRegister 1),
    .binary 2 "udiv" (.ofRegister 1) (.ofImmediate "4294967298"), .ret (.ofRegister 2)], 2⟩

theorem run_eq_ok_iff_runnable_halving :
    (∀ i ∈ halving.code, i.IsPlain) ∧ halving.run = .ok 3 ∧ Runnable halving.code := by
  have hplain : ∀ i ∈ halving.code, i.IsPlain := by decide
  have hrun : halving.run = .ok 3 := by decide +kernel
  exact ⟨hplain, hrun, (run_eq_ok_iff_runnable halving hplain).2.1.mp ⟨3, hrun⟩⟩

end ArithCompiler
