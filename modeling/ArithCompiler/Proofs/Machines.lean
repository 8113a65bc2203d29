import ArithCompiler.Code.Machine

/-!
# What one instruction does to a machine

One equation for each instruction whose operands pass the check, and the effect
of each change on registers and slots.
-/

namespace ArithCompiler

namespace Machine

/-! ### Registers and slots -/

theorem nextRegister_pos (m : Machine) : 0 < m.nextRegister := by
  unfold nextRegister
  omega

theorem lookup_cons_ite (slot name : String) (x : UInt32) (slots : List (String × UInt32)) :
    ((slot, x) :: slots).lookup name = if name = slot then some x else slots.lookup name := by
  by_cases h : name = slot
  · simp [h]
  · simp only [List.lookup_cons, beq_false_of_ne h, h, ite_false]

@[simp] theorem slot?_alloca (m : Machine) (slot name : String) (x : UInt32) :
    ({ m with slots := (slot, x) :: m.slots } : Machine).slot? name =
      if name = slot then some x else m.slot? name :=
  lookup_cons_ite slot name x m.slots

theorem lookup_map_set (slots : List (String × UInt32)) (slot name : String) (x : UInt32) :
    (slots.map fun s => if s.1 = slot then (slot, x) else s).lookup name =
      if name = slot then (slots.lookup name).map fun _ => x else slots.lookup name := by
  induction slots with
  | nil => simp
  | cons s slots ih =>
    obtain ⟨key, y⟩ := s
    by_cases hk : key = slot
    · subst hk
      simp only [List.map_cons, ite_true, lookup_cons_ite, ih]
      by_cases hn : name = key <;> simp [hn]
    · simp only [List.map_cons, hk, ite_false, lookup_cons_ite, ih]
      by_cases hn : name = key
      · subst hn
        simp [hk]
      · simp [hn]

theorem slot?_setSlot (m : Machine) (slot name : String) (x : UInt32) :
    (m.setSlot slot x).slot? name =
      if name = slot then (m.slot? name).map fun _ => x else m.slot? name :=
  lookup_map_set m.slots slot name x

theorem register?_push (m : Machine) (x : UInt32) {n : Int} (hn : 0 < n) :
    ({ m with registers := m.registers.push x } : Machine).register? n =
      if n = m.nextRegister then some x else m.register? n := by
  simp only [register?, gt_iff_lt, hn, ite_true, nextRegister, Array.getElem?_push]
  by_cases h : n.toNat - 1 = m.registers.size
  · rw [if_pos h, if_pos (by omega)]
  · rw [if_neg h, if_neg (by omega)]

theorem isSome_register? {m : Machine} {n : Int} (h0 : 0 < n) (h1 : n < m.nextRegister) :
    (m.register? n).isSome = true := by
  unfold nextRegister at h1
  have hlt : n.toNat - 1 < m.registers.size := by omega
  simp only [register?, gt_iff_lt, h0, ite_true, Array.getElem?_eq_getElem hlt, Option.isSome_some]

/-! ### Instructions -/

theorem checkArgs_pair {m : Machine} {v w : Operand} (hv : m.checkArg v = .ok ())
    (hw : m.checkArg w = .ok ()) : m.checkArgs [v, w] = .ok () := by
  simp only [checkArgs, hv, hw]

theorem checkArg_ofSlot {m : Machine} {slot : String} (h : (m.slot? slot).isSome = true) :
    m.checkArg (.ofSlot slot) = .ok () := by
  unfold checkArg
  simp [Operand.ofSlot, h]

theorem step_alloca {m : Machine} {slot : String} (last : Bool) (h : m.slot? slot = none) :
    m.step (.alloca slot) last = .ok (.inl { m with slots := (slot, 0) :: m.slots }) := by
  simp [step, Instr.args, Instr.target, checkArgs, h, bind, Except.bind, pure, Except.pure]

theorem step_load {m : Machine} {slot : String} {x : UInt32} (last : Bool)
    (h : m.slot? slot = some x) :
    m.step (.load m.nextRegister slot) last =
      .ok (.inl { m with registers := m.registers.push x }) := by
  have hc : m.checkArg (.ofSlot slot) = .ok () := checkArg_ofSlot (by rw [h]; rfl)
  have hn : m.nextRegister ≠ 0 := by
    have := m.nextRegister_pos
    omega
  simp [step, Instr.args, Instr.target, checkArgs, hc, h, hn, define, bind, Except.bind, pure,
    Except.pure]

theorem step_store {m : Machine} {v : Operand} {slot : String} (last : Bool)
    (hv : m.checkArg v = .ok ()) (h : (m.slot? slot).isSome = true) :
    m.step (.store v slot) last = (m.eval v).map fun x => .inl (m.setSlot slot x) := by
  have hc := checkArgs_pair hv (checkArg_ofSlot h)
  cases he : m.eval v <;>
    simp [step, Instr.args, Instr.target, hc, h, he, bind, Except.bind, pure, Except.pure,
      Except.map]

theorem step_ret {m : Machine} {v : Operand} (hv : m.checkArg v = .ok ()) :
    m.step (.ret v) true = (m.eval v).map .inr := by
  cases he : m.eval v <;>
    simp [step, Instr.args, Instr.target, checkArgs, hv, he, bind, Except.bind, pure, Except.pure,
      Except.map]

theorem step_binary {m : Machine} {operation : String} {v w : Operand} (last : Bool)
    (hv : m.checkArg v = .ok ()) (hw : m.checkArg w = .ok ()) :
    m.step (.binary m.nextRegister operation v w) last =
      (m.eval v).bind fun x => (m.eval w).bind fun y =>
        (apply operation x y).map fun z => .inl { m with registers := m.registers.push z } := by
  have hc := checkArgs_pair hv hw
  have hn : m.nextRegister ≠ 0 := by
    have := m.nextRegister_pos
    omega
  simp only [step, Instr.args, Instr.target, hc, hn, define, bind, Except.bind, pure, Except.pure,
    Except.map]
  cases m.eval v with
  | error e => simp
  | ok x =>
    cases m.eval w with
    | error e => simp
    | ok y => cases apply operation x y <;> simp

end Machine

end ArithCompiler
