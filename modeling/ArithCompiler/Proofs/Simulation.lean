import ArithCompiler.Proofs.Running
import Mathlib.Control.Monad.Basic

/-!
# Running code agrees with evaluation

The code of a tree, run on a machine whose slots hold the values of the names,
ends on a machine whose slots hold the values after evaluation, with the value of
the tree in the operand that lowering gives; or it divides by zero exactly where
evaluation does (`simulates_lower`). Registers that are defined keep their values,
so a value that was loaded survives later stores to its slot.
-/

namespace ArithCompiler

namespace Machine

/-! ### Pieces of a run -/

/-- Some code takes one machine to another, whatever follows it. -/
def Reaches (m : Machine) (code : List Instr) (m' : Machine) : Prop :=
  ∀ k rest, m.run k (code ++ rest) = m'.run (k + code.length) rest

/-- Some code divides by zero. -/
def Traps (m : Machine) (code : List Instr) : Prop :=
  ∀ k rest, ∃ j i, m.run k (code ++ rest) = .error (.atInstr j i .divisionByZero)

theorem Reaches.refl (m : Machine) : m.Reaches [] m := fun _ _ => rfl

theorem Reaches.append {m m₁ m' : Machine} {a b : List Instr} (ha : m.Reaches a m₁)
    (hb : m₁.Reaches b m') : m.Reaches (a ++ b) m' := by
  intro k rest
  rw [List.append_assoc, ha, hb, List.length_append, Nat.add_assoc]

theorem Reaches.traps {m m₁ : Machine} {a b : List Instr} (ha : m.Reaches a m₁)
    (hb : m₁.Traps b) : m.Traps (a ++ b) := by
  intro k rest
  rw [List.append_assoc, ha]
  exact hb _ rest

theorem Traps.append {m : Machine} {a : List Instr} (ha : m.Traps a) (b : List Instr) :
    m.Traps (a ++ b) := by
  intro k rest
  rw [List.append_assoc]
  exact ha k (b ++ rest)

theorem reaches_of_step {m m' : Machine} {i : Instr} (h : ∀ last, m.step i last = .ok (.inl m')) :
    m.Reaches [i] m' := by
  intro k rest
  simp only [List.cons_append, List.nil_append, run, h, List.length_singleton]

theorem traps_of_step {m : Machine} {i : Instr}
    (h : ∀ last, m.step i last = .error .divisionByZero) : m.Traps [i] := by
  intro k rest
  exact ⟨k, i, by simp only [List.cons_append, List.nil_append, run, h]⟩

/-! ### Machines and values of names -/

/-- The machine is at a layout, and its slots hold the values of the names. -/
structure Represents (m : Machine) (l : Layout) (env : Env) : Prop where
  fits : m.Fits l
  slots : ∀ name, m.slot? name = env name

/-- Registers that are defined keep their values. -/
def Extends (m m' : Machine) : Prop :=
  ∀ n x, m.register? n = some x → m'.register? n = some x

/-- The value that a result has. -/
inductive Denotes (m : Machine) : Operand → UInt32 → Prop
  | value {v : Operand} {x : UInt32} (hv : m.eval v = .ok x) : Denotes m v x
  | slot {name : String} {x : UInt32} (hn : name ≠ "") (hs : m.slot? name = some x) :
    Denotes m (.ofSlot name) x

theorem represents_initial : initial.Represents .initial .empty where
  fits := fits_initial
  slots := fun _ => rfl

theorem Extends.refl (m : Machine) : m.Extends m := fun _ _ h => h

theorem Extends.trans {m m₁ m' : Machine} (h : m.Extends m₁) (h' : m₁.Extends m') :
    m.Extends m' := fun n x hx => h' n x (h n x hx)

theorem extends_push (m : Machine) (x : UInt32) :
    m.Extends { m with registers := m.registers.push x } := by
  intro n y hy
  by_cases hn : 0 < n
  · rw [register?_push m x hn]
    by_cases heq : n = m.nextRegister
    · subst heq
      simp [register?, nextRegister] at hy
    · rw [if_neg heq, hy]
  · simp [register?, hn] at hy

theorem extends_slots (m : Machine) (slots : List (String × UInt32)) :
    m.Extends { m with slots := slots } := fun _ _ h => h

theorem Extends.eval {m m' : Machine} {l : Layout} {v : Operand} {x : UInt32} (h : m.Extends m')
    (hv : v.Usable l) (hx : m.eval v = .ok x) : m'.eval v = .ok x := by
  cases hv with
  | @register n h0 h1 =>
    cases hr : m.register? n with
    | none => simp [Machine.eval, Operand.ofRegister, h0, hr] at hx
    | some y =>
      rw [eval_ofRegister h0 hr] at hx
      rw [eval_ofRegister h0 (h n y hr), hx]
  | immediate hd =>
    rw [eval_ofImmediate m hd] at hx
    rw [eval_ofImmediate m' hd, hx]

theorem Represents.push {m : Machine} {l : Layout} {env : Env} (h : m.Represents l env)
    (x : UInt32) :
    ({ m with registers := m.registers.push x } : Machine).Represents
      { l with next := l.next + 1 } env where
  fits := h.fits.push x
  slots := h.slots

theorem Represents.alloca {m : Machine} {l : Layout} {env : Env} (h : m.Represents l env)
    (name : String) (x : UInt32) :
    ({ m with slots := (name, x) :: m.slots } : Machine).Represents
      { l with slots := name :: l.slots } (env.set name x) where
  fits := h.fits.alloca name x
  slots := by
    intro n
    rw [slot?_alloca, h.slots n]
    rfl

theorem Represents.setSlot {m : Machine} {l : Layout} {env : Env} (h : m.Represents l env)
    {name : String} (hn : name ∈ l.slots) (x : UInt32) :
    (m.setSlot name x).Represents l (env.set name x) where
  fits := h.fits.setSlot name x
  slots := by
    intro n
    rw [slot?_setSlot]
    by_cases heq : n = name
    · subst heq
      obtain ⟨y, hy⟩ := h.fits.slot?_eq_some hn
      simp [Env.set, hy]
    · simp [Env.set, heq, h.slots n]

theorem slot?_setSlot_self {m : Machine} {l : Layout} (h : m.Fits l) {name : String}
    (hn : name ∈ l.slots) (x : UInt32) : (m.setSlot name x).slot? name = some x := by
  obtain ⟨y, hy⟩ := h.slot?_eq_some hn
  rw [slot?_setSlot, if_pos rfl, hy]
  rfl

theorem eval_nextRegister (m : Machine) (x : UInt32) :
    ({ m with registers := m.registers.push x } : Machine).eval (.ofRegister m.nextRegister) =
      .ok x := by
  refine eval_ofRegister m.nextRegister_pos ?_
  rw [register?_push m x m.nextRegister_pos, if_pos rfl]

end Machine

/-! ### Trees -/

open Machine

/-- Some code does to a machine what evaluation does to the values of names, and
leaves the value at a place that `Holds` tells. -/
inductive Simulates (m : Machine) (code : List Instr) (l' : Layout)
    (Holds : Machine → UInt32 → Prop) : Except EvalFault (UInt32 × Env) → Prop
  | value {m' : Machine} {x : UInt32} {env' : Env} (hrun : m.Reaches code m')
    (hrep : m'.Represents l' env') (hext : m.Extends m') (hx : Holds m' x) :
    Simulates m code l' Holds (.ok (x, env'))
  | trap (h : m.Traps code) : Simulates m code l' Holds (.error .divisionByZero)

theorem reaches_readSlot {m : Machine} {l : Layout} {env : Env} {v : Operand} {x : UInt32}
    (hm : m.Represents l env) (hv : v.Held l) (hx : m.Denotes v x) :
    ∃ m', m.Reaches (readSlot v l).1 m' ∧ m'.Represents (readSlot v l).2.2 env ∧ m.Extends m' ∧
      m'.eval (readSlot v l).2.1 = .ok x := by
  cases hv with
  | usable hv =>
    simp only [readSlot, Operand.isSlot_of_usable hv]
    cases hx with
    | value hx => exact ⟨m, .refl m, hm, .refl m, hx⟩
    | slot hn hs =>
      have hno := Operand.isSlot_of_usable hv
      rw [Operand.isSlot_ofSlot hn] at hno
      cases hno
  | @slot name hn hs =>
    simp only [readSlot, Operand.isSlot_ofSlot hn, ite_true]
    have hslot : m.slot? name = some x := by
      cases hx with
      | value hx => simp [Machine.eval, Operand.ofSlot, hn] at hx
      | slot _ hx => exact hx
    rw [← hm.fits.registers]
    exact ⟨_, reaches_of_step fun last => step_load last hslot, hm.fits.registers ▸ hm.push x,
      extends_push m x, eval_nextRegister m x⟩

theorem simulates_asOperand {e : Expr} {m : Machine} {l l' : Layout} {env : Env}
    {code : List Instr} {w : Operand} (he : e.isValue = true) (hl : 0 < l.next)
    (hlow : ∀ {code₀ v l₀}, lower e l = (.ok (code₀, v), l₀) →
      Simulates m code₀ l₀ (fun m' x => m'.Denotes v x) (e.evaluate env))
    (h : asOperand e (lower e l) = (.ok (code, w), l')) :
    Simulates m code l' (fun m' x => m'.eval w = .ok x) (e.evaluate env) := by
  obtain ⟨code₀, v, l₀, hcode, _, rfl, rfl, rfl⟩ := asOperand_eq_ok h
  have hheld := (straight_lower he hl hcode).2
  have hsim := hlow hcode
  generalize e.evaluate env = r at hsim
  cases hsim with
  | trap htrap => exact .trap (htrap.append _)
  | value hrun hrep hext hx =>
    obtain ⟨m', hrun', hrep', hext', hx'⟩ := reaches_readSlot hrep hheld hx
    exact .value (hrun.append hrun') hrep' (hext.trans hext') hx'

theorem reaches_store {m : Machine} {l : Layout} {env : Env} {w : Operand} {x : UInt32}
    {name : String} (hm : m.Represents l env) (hw : w.Usable l) (hx : m.eval w = .ok x)
    (hn : name ∈ l.slots) : m.Reaches [.store w name] (m.setSlot name x) := by
  refine reaches_of_step fun last => ?_
  rw [step_store last (checkArg_of_usable hm.fits hw) ((hm.fits.slots name).mpr hn), hx]
  rfl

theorem simulates_lower {e : Expr} {m : Machine} {l l' : Layout} {env : Env} {code : List Instr}
    {v : Operand} (he : e.isValue = true)
    (hlit : ∀ digits ∈ e.literals, Text.decimal digits < UInt64.size) (hm : m.Represents l env)
    (h : lower e l = (.ok (code, v), l')) :
    Simulates m code l' (fun m' x => m'.Denotes v x) (e.evaluate env) := by
  induction e generalizing m l l' env code v with
  | hole => cases he
  | ret => cases he
  | literal loc digits =>
    simp only [lower, Prod.mk.injEq, Except.ok.injEq] at h
    obtain ⟨⟨rfl, rfl⟩, rfl⟩ := h
    have hlt := hlit digits (List.mem_singleton.mpr rfl)
    refine .value (.refl m) hm (.refl m) (.value ?_)
    rw [eval_ofImmediate m he, if_pos hlt]
  | var loc name =>
    obtain ⟨hn, rfl, rfl, rfl⟩ := lower_var_eq_ok h
    obtain ⟨x, hx⟩ := hm.fits.slot?_eq_some hn
    have henv : env name = some x := by rw [← hm.slots, hx]
    simp only [Expr.evaluate, henv]
    rw [← hm.fits.registers]
    exact .value (reaches_of_step fun last => step_load last hx) (hm.fits.registers ▸ hm.push x)
      (extends_push m x) (.value (eval_nextRegister m x))
  | binary loc left op right ihl ihr =>
    simp only [Expr.isValue, Bool.and_eq_true] at he
    simp only [Expr.literals, List.mem_append] at hlit
    have hl : 0 < l.next := hm.fits.registers ▸ m.nextRegister_pos
    obtain ⟨o, c₁, v₁, l₁, c₂, v₂, l₂, rfl, h₁, h₂, rfl, rfl, rfl⟩ := lower_binary_eq_ok h
    obtain ⟨hc₁, hu₁⟩ := straight_asOperand hl (straight_lower he.1.1 hl) h₁
    have hl₁ := hc₁.next_pos hl
    obtain ⟨hc₂, hu₂⟩ := straight_asOperand hl₁ (straight_lower he.2 hl₁) h₂
    have hleft := simulates_asOperand he.1.1 hl
      (ihl he.1.1 (fun d hd => hlit d (.inl hd)) hm) h₁
    simp only [Expr.evaluate]
    generalize left.evaluate env = r₁ at hleft
    cases hleft with
    | trap htrap => exact .trap ((htrap.append c₂).append _)
    | @value m₁ x env₁ hrun₁ hrep₁ hext₁ hx =>
      have hright := simulates_asOperand he.2 hl₁
        (ihr he.2 (fun d hd => hlit d (.inr hd)) hrep₁) h₂
      dsimp only
      generalize right.evaluate env₁ = r₂ at hright
      cases hright with
      | trap htrap => exact .trap ((hrun₁.traps htrap).append _)
      | @value m₂ y env₂ hrun₂ hrep₂ hext₂ hy =>
        -- the left value is still where it was
        have hx₂ := hext₂.eval hu₁ hx
        have hstep : ∀ last, m₂.step (.binary m₂.nextRegister o.mnemonic v₁ v₂) last = _ :=
          fun last => step_binary last (checkArg_of_usable hrep₂.fits (hu₁.mono hc₂.next_le))
            (checkArg_of_usable hrep₂.fits hu₂)
        simp only [hx₂, hy, Except.bind, apply_mnemonic] at hstep
        simp only [OpCode.apply]
        rw [← hrep₂.fits.registers]
        cases hz : o.result? x y with
        | none =>
          simp only [hz] at hstep
          exact .trap ((hrun₁.append hrun₂).traps (traps_of_step hstep))
        | some z =>
          simp only [hz] at hstep
          exact .value ((hrun₁.append hrun₂).append (reaches_of_step hstep))
            (hrep₂.fits.registers ▸ hrep₂.push z)
            ((hext₁.trans hext₂).trans (extends_push m₂ z)) (.value (eval_nextRegister m₂ z))
  | assign loc name value ih =>
    simp only [Expr.isValue, Bool.and_eq_true] at he
    have hne := ne_empty_of_isName he.1
    have hl : 0 < l.next := hm.fits.registers ▸ m.nextRegister_pos
    obtain ⟨c, w, l₁, h₁, rfl, hslot⟩ := lower_assign_eq_ok h
    obtain ⟨_, hu⟩ := straight_asOperand hl (straight_lower he.2 hl) h₁
    have hvalue := simulates_asOperand he.2 hl (ih he.2 hlit hm) h₁
    simp only [Expr.evaluate]
    generalize value.evaluate env = r at hvalue
    cases hvalue with
    | trap htrap => rcases hslot with ⟨_, rfl, _⟩ | ⟨_, rfl, _⟩ <;> exact .trap (htrap.append _)
    | @value m₁ x env₁ hrun hrep hext hx =>
      rcases hslot with ⟨hn, rfl, rfl⟩ | ⟨hn, rfl, rfl⟩
      · exact .value (hrun.append (reaches_store hrep hu hx hn)) (hrep.setSlot hn x)
          (hext.trans (extends_slots m₁ _)) (.slot hne (slot?_setSlot_self hrep.fits hn x))
      · -- a new slot holds zero for a moment
        have hmem : name ∈ name :: l₁.slots := List.mem_cons_self ..
        have hnew := hrep.alloca name 0
        have halloc := reaches_of_step fun last =>
          step_alloca last (hrep.fits.slot?_eq_none hn)
        have hstore := reaches_store hnew (hu.mono (Int.le_refl _)) hx hmem
        have hset := hnew.setSlot hmem x
        rw [Env.set_set] at hset
        exact .value (hrun.append (halloc.append hstore)) hset
          (hext.trans (extends_slots m₁ _)) (.slot hne (slot?_setSlot_self hnew.fits hmem x))
  | group loc inner ih =>
    simp only [lower] at h
    exact ih he hlit hm h

/-! ### Programs -/

theorem run_ret {m : Machine} {l : Layout} {w : Operand} {x : UInt32} (hm : m.Fits l)
    (hw : w.Usable l) (hx : m.eval w = .ok x) (k : Nat) : m.run k [.ret w] = .ok x := by
  have hstep := step_ret (checkArg_of_usable hm hw)
  rw [hx] at hstep
  simp [run, hstep, Except.map]

theorem run_append_ret {m m' : Machine} {l : Layout} {code : List Instr} {w : Operand} {x : UInt32}
    (hrun : m.Reaches code m') (hm : m'.Fits l) (hw : w.Usable l) (hx : m'.eval w = .ok x)
    (k : Nat) : m.run k (code ++ [.ret w]) = .ok x := by
  rw [hrun]
  exact run_ret hm hw hx _

/-- What the code of some statements does: it divides by zero as evaluation does, or
returns the result, or has the value of the last statement at the end. -/
inductive SimulatesAll (m : Machine) (body : Body) (l' : Layout) : Except EvalFault UInt32 → Prop
  | trap (h : m.Traps body.code) : SimulatesAll m body l' (.error .divisionByZero)
  | returned {x : UInt32} (hr : body.returned = true) (hrun : ∀ k, m.run k body.code = .ok x) :
    SimulatesAll m body l' (.ok x)
  | fallen {m' : Machine} {env' : Env} {x : UInt32} (hr : body.returned = false)
    (hrun : m.Reaches body.code m') (hrep : m'.Represents l' env')
    (hx : m'.Denotes body.value x) : SimulatesAll m body l' (.ok x)

theorem SimulatesAll.after {m m₁ : Machine} {code : List Instr} {body : Body} {l' : Layout}
    {r : Except EvalFault UInt32} (hrun : m.Reaches code m₁) (h : SimulatesAll m₁ body l' r) :
    SimulatesAll m { body with code := code ++ body.code } l' r := by
  cases h with
  | trap htrap => exact .trap (hrun.traps htrap)
  | returned hr hret => exact .returned hr fun k => (hrun k body.code).trans (hret _)
  | fallen hr hrest hrep hx => exact .fallen hr (hrun.append hrest) hrep hx

theorem simulatesAll_ret {s : Expr} {m : Machine} {l l' : Layout} {env : Env} {code : List Instr}
    {v : Operand} {skipped : Nat} (hs : s.isStatement = true) (hr : s.isReturn = true)
    (hlit : ∀ digits ∈ s.literals, Text.decimal digits < UInt64.size) (hm : m.Represents l env)
    (h : lower s l = (.ok (code, v), l')) :
    SimulatesAll m ⟨code, v, true, skipped⟩ l' ((s.evaluate env).map (·.1)) := by
  cases s with
  | ret loc value =>
    have hv : value.isValue = true := hs
    have hl : 0 < l.next := hm.fits.registers ▸ m.nextRegister_pos
    obtain ⟨c, w, hop, rfl⟩ := lower_ret_eq_ok h
    obtain ⟨_, hu⟩ := straight_asOperand hl (straight_lower hv hl) hop
    have hsim := simulates_asOperand hv hl (simulates_lower hv hlit hm) hop
    simp only [Expr.evaluate]
    generalize value.evaluate env = r at hsim
    cases hsim with
    | trap htrap => exact .trap (htrap.append _)
    | value hrun hrep _ hx => exact .returned rfl fun k => run_append_ret hrun hrep.fits hu hx k
  | _ => cases hr

theorem simulates_lowerAll {i : Nat} {last : Operand} {x : UInt32} {p : List Expr} {m : Machine}
    {l l' : Layout} {env : Env} {body : Body} (hp : ∀ s ∈ p, s.isStatement = true)
    (hlit : ∀ digits ∈ p.flatMap Expr.literals, Text.decimal digits < UInt64.size)
    (hm : m.Represents l env) (hx : m.Denotes last x)
    (h : lowerAll i last p l = (.ok body, l')) :
    SimulatesAll m body l' (evaluateAll x p env) := by
  induction p generalizing i last x m l env body with
  | nil =>
    simp only [lowerAll, Prod.mk.injEq, Except.ok.injEq] at h
    obtain ⟨rfl, rfl⟩ := h
    exact .fallen rfl (.refl m) hm hx
  | cons s rest ih =>
    simp only [List.flatMap_cons, List.mem_append] at hlit
    have hs := hp s (List.mem_cons_self ..)
    obtain ⟨code, v, l₁, h₁, hcase⟩ := lowerAll_cons_eq_ok h
    rcases hcase with ⟨hr, rfl, rfl⟩ | ⟨hr, body', h₂, rfl⟩
    · have hret : SimulatesAll m ⟨code, v, true, rest.length⟩ l' _ :=
        simulatesAll_ret hs hr (fun d hd => hlit d (.inl hd)) hm h₁
      simp only [evaluateAll, hr, ite_true]
      cases hev : s.evaluate env <;> simpa [hev, Except.map] using hret
    · have hv := Expr.isValue_of_isStatement hs hr
      have hsim := simulates_lower hv (fun d hd => hlit d (.inl hd)) hm h₁
      simp only [evaluateAll, hr]
      generalize s.evaluate env = r at hsim
      cases hsim with
      | trap htrap => exact .trap (htrap.append _)
      | value hrun hrep _ hval =>
        exact (ih (fun t ht => hp t (List.mem_cons_of_mem _ ht)) (fun d hd => hlit d (.inr hd))
          hrep hval h₂).after hrun

theorem run_generate {p : Program} {name : String} {g : Generated} {l : Layout}
    (hp : ∀ s ∈ p, s.isStatement = true)
    (hlit : ∀ digits ∈ p.literals, Text.decimal digits < UInt64.size)
    (h : generate p name = (.ok g, l)) :
    (∃ x, p.evaluate = .ok x ∧ g.function.run = .ok x) ∨
      (p.evaluate = .error .divisionByZero ∧
        ∃ k i, g.function.run = .error (.atInstr k i .divisionByZero)) := by
  obtain ⟨body, l₀, hall, _, hcase⟩ := generate_eq_ok h
  have hheld : (Operand.ofImmediate "0").Held .initial := .usable (.immediate (by decide))
  have hzero : initial.Denotes (.ofImmediate "0") 0 := .value (by rw [eval_ofImmediate] <;> rfl)
  have hbody := straight_lowerAll hp (by decide) hheld hall
  have hsim := simulates_lowerAll hp hlit represents_initial hzero hall
  unfold Program.evaluate Function.run
  generalize evaluateAll 0 p .empty = r at hsim
  cases hsim with
  | trap htrap =>
    right
    refine ⟨rfl, ?_⟩
    rcases hcase with ⟨_, hcode, _⟩ | ⟨_, _, hcode⟩
    · obtain ⟨k, i, hrun⟩ := htrap 0 []
      rw [List.append_nil] at hrun
      exact ⟨k, i, by rw [hcode, hrun]; rfl⟩
    · obtain ⟨k, i, hrun⟩ := (htrap.append (readSlot body.value l₀).1) 0 _
      exact ⟨k, i, by rw [hcode, hrun]; rfl⟩
  | @returned x hr hrun =>
    left
    refine ⟨x.toInt32, rfl, ?_⟩
    rcases hcase with ⟨_, hcode, _⟩ | ⟨hr', _, _⟩
    · rw [hcode, hrun 0]
      rfl
    · rw [hr] at hr'
      cases hr'
  | @fallen m' env' x hr hrun hrep hx =>
    left
    refine ⟨x.toInt32, rfl, ?_⟩
    rcases hcase with ⟨hr', _, _⟩ | ⟨_, rfl, hcode⟩
    · rw [hr] at hr'
      cases hr'
    · rw [if_neg (by simp [hr])] at hbody
      have hl₀ : 0 < l₀.next := hrep.fits.registers ▸ m'.nextRegister_pos
      obtain ⟨m'', hrun', hrep', _, hx'⟩ := reaches_readSlot hrep hbody.2 hx
      have hu := (straight_readSlot hbody.2 hl₀).2
      rw [hcode, run_append_ret (hrun.append hrun') hrep'.fits hu hx' 0]
      rfl

/-- Running the code of a program that was built from a text gives the value of
direct evaluation, and fails exactly if evaluation divides by zero. -/
theorem run_generate_iff_evaluate {source : List UInt8} {ls : List Lexeme}
    {events : List BuildEvent} {p : Program} {name : String} {g : Generated} {l : Layout}
    (hscan : tokenize source = .ok ls) (hbuild : build ls = (events, .ok p))
    (hlit : ∀ digits ∈ p.literals, Text.decimal digits < UInt64.size)
    (hgen : generate p name = (.ok g, l)) :
    ((∃ e, g.function.run = .error e) ↔ p.evaluate = .error .divisionByZero) ∧
      ∀ x, g.function.run = .ok x ↔ p.evaluate = .ok x := by
  rcases run_generate (isStatement_of_build hscan hbuild) hlit hgen with
    ⟨x, heval, hrun⟩ | ⟨heval, k, i, hrun⟩
  · simp [heval, hrun]
  · simp [heval, hrun]

/-- The tree of `a = 7; a - (a = 2) * (a + 1)`. -/
def reassigning : Program :=
  [.assign ⟨1, 3⟩ "a" (.literal ⟨1, 5⟩ "7"),
    .binary ⟨1, 10⟩ (.var ⟨1, 8⟩ "a") (.known .sub)
      (.binary ⟨1, 20⟩ (.group ⟨1, 12⟩ (.assign ⟨1, 15⟩ "a" (.literal ⟨1, 17⟩ "2"))) (.known .mul)
        (.group ⟨1, 22⟩ (.binary ⟨1, 25⟩ (.var ⟨1, 23⟩ "a") (.known .add)
          (.literal ⟨1, 27⟩ "1"))))]

/-- Its code: the first read of `a` is kept in register 1, across the later store. -/
def reassigningCode : Generated :=
  ⟨⟨"main", [.alloca "a", .store (.ofImmediate "7") "a", .load 1 "a",
    .store (.ofImmediate "2") "a", .load 2 "a", .load 3 "a",
    .binary 4 "add" (.ofRegister 3) (.ofImmediate "1"),
    .binary 5 "mul" (.ofRegister 2) (.ofRegister 4),
    .binary 6 "sub" (.ofRegister 1) (.ofRegister 5), .ret (.ofRegister 6)], 6⟩, 0⟩

theorem run_generate_iff_evaluate_reassigning :
    ∃ ls events l, tokenize (Text.encode "a = 7; a - (a = 2) * (a + 1)") = .ok ls ∧
      build ls = (events, .ok reassigning) ∧
      (∀ digits ∈ reassigning.literals, Text.decimal digits < UInt64.size) ∧
      generate reassigning "main" = (.ok reassigningCode, l) ∧
      reassigning.evaluate = .ok 1 ∧ reassigningCode.function.run = .ok 1 := by
  have hscan := tokenize_eq (Text.encode "a = 7; a - (a = 2) * (a + 1)")
  have hbuild : ∃ events, build (scanned .start (Text.trim (Text.decode (Text.encode
      "a = 7; a - (a = 2) * (a + 1)")))) = (events, .ok reassigning) :=
    ⟨_, Prod.ext rfl (by decide +kernel)⟩
  obtain ⟨events, hbuild⟩ := hbuild
  have hlit : ∀ digits ∈ reassigning.literals, Text.decimal digits < UInt64.size := by
    decide +kernel
  have hgen : ∃ l, generate reassigning "main" = (.ok reassigningCode, l) :=
    ⟨_, Prod.ext (by decide +kernel) rfl⟩
  obtain ⟨l, hgen⟩ := hgen
  have heval : reassigning.evaluate = .ok 1 := by decide +kernel
  exact ⟨_, _, _, hscan, hbuild, hlit, hgen, heval,
    ((run_generate_iff_evaluate hscan hbuild hlit hgen).2 1).mpr heval⟩

end ArithCompiler
