import ArithCompiler.Proofs.Steps
import ArithCompiler.Proofs.WellFormedCode
import Mathlib.Logic.Function.Basic

/-!
# Machines after some code

A machine that has run some code holds exactly what that code defines
(`Machine.Reflects`): the registers in the order of their definitions and the slots that
were allocated, with the words of an execution without checks (`Memory`). So the code
before an instruction tells whether the instruction can be run (`Instr.Accepted`).
-/

namespace ArithCompiler

/-! ### Execution without checks -/

/-- A word for every register and every slot. -/
structure Memory where
  registers : Int → UInt32
  slots : String → UInt32

namespace Memory

def initial : Memory := ⟨fun _ => 0, fun _ => 0⟩

/-- The word that a register or an immediate stands for. -/
def word (σ : Memory) (v : Operand) : UInt32 :=
  if 0 < v.register then σ.registers v.register else UInt32.ofNat (Text.decimal v.immediate)

/-- A named operation; division by zero gives some word. -/
def result (operation : String) (x y : UInt32) : UInt32 :=
  if operation = "add" then x + y
  else if operation = "sub" then x - y
  else if operation = "mul" then x * y
  else x / y

def define (σ : Memory) (r : Int) (x : UInt32) : Memory :=
  { σ with registers := Function.update σ.registers r x }

def setSlot (σ : Memory) (slot : String) (x : UInt32) : Memory :=
  { σ with slots := Function.update σ.slots slot x }

@[simp] theorem registers_define (σ : Memory) (r n : Int) (x : UInt32) :
    (σ.define r x).registers n = if n = r then x else σ.registers n :=
  Function.update_apply σ.registers r x n

@[simp] theorem slots_define (σ : Memory) (r : Int) (x : UInt32) :
    (σ.define r x).slots = σ.slots := rfl

@[simp] theorem registers_setSlot (σ : Memory) (slot : String) (x : UInt32) :
    (σ.setSlot slot x).registers = σ.registers := rfl

@[simp] theorem slots_setSlot (σ : Memory) (slot name : String) (x : UInt32) :
    (σ.setSlot slot x).slots name = if name = slot then x else σ.slots name :=
  Function.update_apply σ.slots slot x name

def after (σ : Memory) : Instr → Memory
  | .alloca slot => σ.setSlot slot 0
  | .load r slot => σ.define r (σ.slots slot)
  | .store v slot => σ.setSlot slot (σ.word v)
  | .binary r operation v w => σ.define r (result operation (σ.word v) (σ.word w))
  | .ret _ => σ

/-- The memory after some code. -/
def run (code : List Instr) : Memory := code.foldl after initial

theorem run_concat (code : List Instr) (i : Instr) : run (code ++ [i]) = (run code).after i := by
  simp only [run, List.foldl_append, List.foldl_cons, List.foldl_nil]

end Memory

/-! ### Code before an instruction -/

/-- Exactly one of the three fields of the operand is set. -/
def Operand.IsSingle (v : Operand) : Prop :=
  (0 < v.register ∧ v.immediate = "" ∧ v.slot = "") ∨
    (v.register ≤ 0 ∧ v.immediate ≠ "" ∧ v.slot = "") ∨
    (v.register ≤ 0 ∧ v.immediate = "" ∧ v.slot ≠ "")

instance (v : Operand) : Decidable v.IsSingle := inferInstanceAs (Decidable (_ ∨ _))

/-- The slot of the instruction has a name, and its operands have one field each. -/
def Instr.IsPlain (i : Instr) : Prop := i.slot? ≠ some "" ∧ ∀ v ∈ i.values, v.IsSingle

instance (i : Instr) : Decidable i.IsPlain := inferInstanceAs (Decidable (_ ∧ _))

/-- The registers that code defines, in order. Register zero stands for none. -/
def results (code : List Instr) : List Int := (code.map Instr.target).filter (· ≠ 0)

/-- The names of the operations that there are. -/
def operations : List String := ["add", "sub", "mul", "udiv"]

/-- An operand that can be read after some code. -/
structure Operand.Accepted (before : List Instr) (v : Operand) : Prop where
  defined : 0 < v.register → ∃ j ∈ before, j.target = v.register
  notSlot : v.isSlot = false
  immediate : v.immediate ≠ "" →
    Text.isNumeral v.immediate = true ∧ Text.decimal v.immediate < UInt64.size

/-- An instruction that can be run after some code. -/
inductive Instr.Accepted (before : List Instr) : Instr → Prop
  | alloca {slot : String} (hs : Instr.alloca slot ∉ before) : Accepted before (.alloca slot)
  | load {r : Int} {slot : String} (hr : r = 0 ∨ r = (results before).length + 1)
    (hs : Instr.alloca slot ∈ before) : Accepted before (.load r slot)
  | store {v : Operand} {slot : String} (hv : v.Accepted before)
    (hs : Instr.alloca slot ∈ before) : Accepted before (.store v slot)
  | binary {r : Int} {operation : String} {v w : Operand}
    (hr : r = 0 ∨ r = (results before).length + 1) (hv : v.Accepted before)
    (hw : w.Accepted before) (ho : operation ∈ operations)
    (hd : operation = "udiv" → (Memory.run before).word w ≠ 0) :
    Accepted before (.binary r operation v w)
  | ret {v : Operand} (hv : v.Accepted before) : Accepted before (.ret v)

theorem Machine.apply_eq_ok_iff {operation : String} {x y z : UInt32} :
    apply operation x y = .ok z ↔ operation ∈ operations ∧ (operation = "udiv" → y ≠ 0) ∧
      z = Memory.result operation x y := by
  unfold apply Memory.result operations
  by_cases hadd : operation = "add"
  · simp [hadd, eq_comm]
  · by_cases hsub : operation = "sub"
    · simp [hsub, eq_comm]
    · by_cases hmul : operation = "mul"
      · simp [hmul, eq_comm]
      · by_cases hdiv : operation = "udiv"
        · by_cases hy : y = 0
          · simp [hdiv, hy]
          · simp [hdiv, hy, eq_comm]
        · simp [hadd, hsub, hmul, hdiv]

/-! ### Machines after code -/

theorem consecutive_succ (first : Int) (n : Nat) :
    consecutive first (n + 1) = consecutive first n ++ [first + n] := by
  induction n generalizing first with
  | zero => simp [consecutive]
  | succ n ih =>
    have hlast : first + 1 + (n : Int) = first + ((n + 1 : Nat) : Int) := by omega
    rw [consecutive, ih (first + 1), hlast, consecutive, List.cons_append]

@[simp] theorem length_consecutive (first : Int) (n : Nat) :
    (consecutive first n).length = n := by
  induction n generalizing first with
  | zero => rfl
  | succ n ih => rw [consecutive, List.length_cons, ih]

theorem results_concat (code : List Instr) (i : Instr) :
    results (code ++ [i]) = results code ++ if i.target = 0 then [] else [i.target] := by
  by_cases hi : i.target = 0 <;> simp [results, hi]

theorem mem_results {code : List Instr} {n : Int} (hn : n ≠ 0) :
    n ∈ results code ↔ ∃ j ∈ code, j.target = n := by
  simp only [results, List.mem_filter, List.mem_map, decide_eq_true_eq]
  exact ⟨fun h => h.1, fun h => ⟨h, hn⟩⟩

namespace Machine

/-- The machine holds what the code before has defined, and nothing else. -/
structure Reflects (m : Machine) (before : List Instr) : Prop where
  results : results before = consecutive 1 m.registers.size
  register : ∀ n, 0 < n → n < m.nextRegister →
    m.register? n = some ((Memory.run before).registers n)
  slot : ∀ name, m.slot? name =
    if Instr.alloca name ∈ before then some ((Memory.run before).slots name) else none

theorem reflects_initial : initial.Reflects [] where
  results := rfl
  register := by
    intro n h0 h1
    have : initial.nextRegister = 1 := rfl
    omega
  slot := by simp [initial, slot?]

theorem register?_eq_none {m : Machine} {n : Int} (h : m.nextRegister ≤ n) :
    m.register? n = none := by
  have hpos := m.nextRegister_pos
  unfold nextRegister at h hpos
  simp only [register?, gt_iff_lt, show 0 < n by omega, ite_true]
  exact Array.getElem?_eq_none (by omega)

theorem Reflects.nextRegister {m : Machine} {before : List Instr} (h : m.Reflects before) :
    m.nextRegister = (ArithCompiler.results before).length + 1 := by
  rw [h.results, length_consecutive]
  rfl

theorem Reflects.defined_iff {m : Machine} {before : List Instr} (h : m.Reflects before) {n : Int}
    (hn : 0 < n) : (∃ j ∈ before, j.target = n) ↔ n < m.nextRegister := by
  rw [← mem_results (by omega), h.results, mem_consecutive]
  unfold Machine.nextRegister
  omega

/-! ### Reading operands -/

theorem eval_immediate_eq_ok_iff (m : Machine) {v : Operand} {x : UInt32}
    (hr : ¬ 0 < v.register) (hi : v.immediate ≠ "") :
    m.eval v = .ok x ↔ Text.isNumeral v.immediate = true ∧
      Text.decimal v.immediate < UInt64.size ∧ x = UInt32.ofNat (Text.decimal v.immediate) := by
  have hread : ∀ n, Text.readUnsigned UInt64.size v.immediate = .ok n ↔ _ :=
    fun n => Text.readUnsigned_eq_ok_iff (by decide)
  simp only [eval, gt_iff_lt, hr, ite_false, ne_eq, hi, not_false_eq_true, ite_true]
  cases h : Text.readUnsigned UInt64.size v.immediate with
  | ok n =>
    obtain ⟨hnum, hlt, rfl⟩ := (hread n).mp h
    simp [hnum, hlt, eq_comm]
  | error fault =>
    simp only [reduceCtorEq, false_iff, not_and]
    intro hnum hlt
    rw [(hread _).mpr ⟨hnum, hlt, rfl⟩] at h
    cases h

theorem Reflects.eval_register_iff {m : Machine} {before : List Instr} (h : m.Reflects before)
    {v : Operand} {x : UInt32} (hr : 0 < v.register) :
    m.checkArg v = .ok () ∧ m.eval v = .ok x ↔
      v.register < m.nextRegister ∧ x = (Memory.run before).registers v.register := by
  by_cases hlt : v.register < m.nextRegister
  · simp [checkArg, eval, hr, hlt, h.register _ hr hlt, eq_comm]
  · simp [checkArg, hr, hlt, register?_eq_none (Int.not_lt.mp hlt)]

/-- An operand with one field can be read if and only if it is accepted, and then it gives
the word that it stands for. -/
theorem Reflects.eval_iff {m : Machine} {before : List Instr} (h : m.Reflects before)
    {v : Operand} (hv : v.IsSingle) {x : UInt32} :
    m.checkArg v = .ok () ∧ m.eval v = .ok x ↔
      v.Accepted before ∧ x = (Memory.run before).word v := by
  rcases hv with ⟨hr, hi, hs⟩ | ⟨hr, hi, hs⟩ | ⟨hr, hi, hs⟩
  · have haccepted : v.Accepted before ↔ v.register < m.nextRegister := by
      rw [← h.defined_iff hr]
      exact ⟨fun ha => ha.defined hr, fun hd => ⟨fun _ => hd, by simp [Operand.isSlot, hs],
        by simp [hi]⟩⟩
    rw [h.eval_register_iff hr, haccepted, Memory.word, if_pos hr]
  · have hr' : ¬ 0 < v.register := Int.not_lt.mpr hr
    have hcheck : m.checkArg v = .ok () := by simp [checkArg, hr', Operand.isSlot, hs]
    have haccepted : v.Accepted before ↔
        Text.isNumeral v.immediate = true ∧ Text.decimal v.immediate < UInt64.size :=
      ⟨fun ha => ha.immediate hi, fun hd => ⟨fun hpos => absurd hpos hr',
        by simp [Operand.isSlot, hs], fun _ => hd⟩⟩
    rw [eval_immediate_eq_ok_iff m hr' hi, haccepted, Memory.word, if_neg hr']
    simp only [hcheck, true_and, and_assoc]
  · -- a slot is no value, whether or not it is allocated
    have hr' : ¬ 0 < v.register := Int.not_lt.mpr hr
    have hnot : ¬ v.Accepted before := by
      intro ha
      simpa [Operand.isSlot, hs] using ha.notSlot
    simp [hnot, eval, hr', hi, hs]

/-! ### What an instruction changes -/

theorem slot?_define (m : Machine) (r : Int) (x : UInt32) (name : String) :
    (m.define r x).slot? name = m.slot? name := by
  unfold define
  split <;> rfl

theorem mem_alloca_concat (before : List Instr) (i : Instr) (name : String) :
    Instr.alloca name ∈ before ++ [i] ↔ Instr.alloca name ∈ before ∨ i = .alloca name := by
  simp [eq_comm]

theorem Reflects.define {m : Machine} {before : List Instr} {i : Instr} {x : UInt32}
    (h : m.Reflects before) (ht : i.target = 0 ∨ i.target = m.nextRegister)
    (hi : ∀ slot, i ≠ .alloca slot)
    (hσ : (Memory.run before).after i = (Memory.run before).define i.target x) :
    (m.define i.target x).Reflects (before ++ [i]) := by
  constructor
  · rw [results_concat, h.results]
    unfold Machine.define
    by_cases h0 : i.target = 0
    · simp [h0]
    · have hnext : i.target = 1 + m.registers.size := by
        rw [ht.resolve_left h0, Machine.nextRegister]
        omega
      rw [if_neg h0, if_neg h0, Array.size_push, consecutive_succ, hnext]
  · intro n hpos hlt
    rw [Memory.run_concat, hσ]
    unfold Machine.define at hlt ⊢
    by_cases h0 : i.target = 0
    · simp only [h0, ite_true] at hlt ⊢
      rw [Memory.registers_define, if_neg (by omega)]
      exact h.register n hpos hlt
    · have hnext := ht.resolve_left h0
      simp only [h0, ite_false] at hlt ⊢
      rw [nextRegister_push] at hlt
      rw [register?_push m x hpos, Memory.registers_define, ← hnext]
      by_cases hn : n = i.target
      · rw [if_pos hn, if_pos hn]
      · rw [if_neg hn, if_neg hn]
        exact h.register n hpos (by omega)
  · intro name
    rw [slot?_define, h.slot, Memory.run_concat, hσ]
    simp only [mem_alloca_concat, hi name, or_false, Memory.slots_define]

theorem Reflects.alloca {m : Machine} {before : List Instr} (h : m.Reflects before)
    (slot : String) :
    ({ m with slots := (slot, 0) :: m.slots } : Machine).Reflects (before ++ [.alloca slot]) where
  results := by
    rw [results_concat, h.results]
    simp [Instr.target]
  register := by
    intro n hpos hlt
    rw [Memory.run_concat]
    exact h.register n hpos hlt
  slot := by
    intro name
    rw [slot?_alloca, Memory.run_concat, h.slot]
    simp only [mem_alloca_concat, Instr.alloca.injEq, Memory.after, Memory.slots_setSlot]
    by_cases hn : name = slot
    · simp [hn]
    · simp [hn, Ne.symm hn]

theorem Reflects.store {m : Machine} {before : List Instr} {v : Operand} {x : UInt32}
    (h : m.Reflects before) (slot : String) (hx : x = (Memory.run before).word v) :
    (m.setSlot slot x).Reflects (before ++ [.store v slot]) where
  results := by
    rw [results_concat, h.results]
    simp [Instr.target, setSlot]
  register := by
    intro n hpos hlt
    rw [Memory.run_concat]
    exact h.register n hpos hlt
  slot := by
    intro name
    rw [slot?_setSlot, Memory.run_concat, h.slot]
    simp only [mem_alloca_concat, reduceCtorEq, or_false, Memory.after, Memory.slots_setSlot]
    by_cases hn : name = slot
    · by_cases hs : Instr.alloca name ∈ before
      · simp [hn, hx]
      · simp [hs]
    · simp [hn]

/-! ### Steps -/

theorem Reflects.isSome_slot?_iff {m : Machine} {before : List Instr} (h : m.Reflects before)
    (name : String) : (m.slot? name).isSome = true ↔ Instr.alloca name ∈ before := by
  rw [h.slot]
  by_cases hs : Instr.alloca name ∈ before <;> simp [hs]

theorem Reflects.of_does {m m' : Machine} {before : List Instr} {i : Instr} {last : Bool}
    (h : m.Reflects before) (hi : i.IsPlain) (hd : m.Does last i (.inl m')) :
    i.Accepted before ∧ m'.Reflects (before ++ [i]) := by
  cases hd with
  | @alloca slot hs =>
    have hfresh : Instr.alloca slot ∉ before := by
      rw [← h.isSome_slot?_iff, hs]
      simp
    exact ⟨.alloca hfresh, h.alloca slot⟩
  | @load r slot x hr hs =>
    have hmem : Instr.alloca slot ∈ before := (h.isSome_slot?_iff slot).mp (by rw [hs]; rfl)
    have hx : x = (Memory.run before).slots slot := by
      rw [h.slot, if_pos hmem] at hs
      exact (Option.some.inj hs).symm
    refine ⟨.load (h.nextRegister ▸ hr) hmem, ?_⟩
    exact h.define (i := .load r slot) hr (by simp) (by rw [hx]; rfl)
  | @store v slot x hc hv hs =>
    obtain ⟨hv', hx⟩ := (h.eval_iff (hi.2 v (by simp [Instr.values]))).mp ⟨hc, hv⟩
    exact ⟨.store hv' ((h.isSome_slot?_iff slot).mp hs), h.store slot hx⟩
  | @binary r operation v w x y z hr hc hc' hv hw hz =>
    obtain ⟨hv', rfl⟩ := (h.eval_iff (hi.2 v (by simp [Instr.values]))).mp ⟨hc, hv⟩
    obtain ⟨hw', rfl⟩ := (h.eval_iff (hi.2 w (by simp [Instr.values]))).mp ⟨hc', hw⟩
    obtain ⟨ho, hd, rfl⟩ := apply_eq_ok_iff.mp hz
    refine ⟨.binary (h.nextRegister ▸ hr) hv' hw' ho hd, ?_⟩
    exact h.define (i := .binary r operation v w) hr (by simp) rfl

theorem Reflects.exists_does {m : Machine} {before : List Instr} {i : Instr} (last : Bool)
    (h : m.Reflects before) (hi : i.IsPlain) (ha : i.Accepted before)
    (hr : i.isReturn = false) : ∃ m', m.Does last i (.inl m') := by
  cases ha with
  | @alloca slot hs =>
    have hnone : m.slot? slot = none := by rw [h.slot, if_neg hs]
    exact ⟨_, .alloca hnone⟩
  | load htarget hs =>
    obtain ⟨x, hx⟩ := Option.isSome_iff_exists.mp ((h.isSome_slot?_iff _).mpr hs)
    exact ⟨_, .load (h.nextRegister ▸ htarget) hx⟩
  | @store v slot hv hs =>
    obtain ⟨hc, hx⟩ := (h.eval_iff (hi.2 v (by simp [Instr.values]))).mpr ⟨hv, rfl⟩
    exact ⟨_, .store hc hx ((h.isSome_slot?_iff slot).mpr hs)⟩
  | @binary r operation v w htarget hv hw ho hd =>
    obtain ⟨hc, hx⟩ := (h.eval_iff (hi.2 v (by simp [Instr.values]))).mpr ⟨hv, rfl⟩
    obtain ⟨hc', hy⟩ := (h.eval_iff (hi.2 w (by simp [Instr.values]))).mpr ⟨hw, rfl⟩
    exact ⟨_, .binary (h.nextRegister ▸ htarget) hc hc' hx hy (apply_eq_ok_iff.mpr ⟨ho, hd, rfl⟩)⟩
  | ret hv => cases hr

end Machine

end ArithCompiler
