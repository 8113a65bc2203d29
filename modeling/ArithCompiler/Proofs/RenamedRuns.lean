import ArithCompiler.Proofs.Renaming
import ArithCompiler.Proofs.Steps
import ArithCompiler.Proofs.WellFormedCode

/-!
# Running under other names

A machine on which all slots are renamed takes the same steps as before (`Machine.step_rename`).
So renamed code gives the same result, or the same fault at the same place
(`Function.run_rename`), and the names of the variables of a program do not matter.
-/

namespace ArithCompiler

/-! ### Machines and faults under other names -/

section

variable (f : String → String)

def Machine.rename (m : Machine) : Machine := { m with slots := m.slots.map fun s => (f s.1, s.2) }

def RunFault.rename : RunFault → RunFault
  | .undefinedRegister v => .undefinedRegister (v.rename f)
  | .unallocatedSlot v => .unallocatedSlot (v.rename f)
  | .wrongTarget n => .wrongTarget n
  | .allocatedTwice slot => .allocatedTwice (f slot)
  | .invalidImmediate digits fault => .invalidImmediate digits fault
  | .slotAsValue v => .slotAsValue (v.rename f)
  | .emptyValue => .emptyValue
  | .divisionByZero => .divisionByZero
  | .unknownOperation name => .unknownOperation name
  | .afterReturn => .afterReturn
  | .missingSlot => .missingSlot

def RunError.rename : RunError → RunError
  | .atInstr index instr fault => .atInstr index (instr.rename f) (fault.rename f)
  | .noReturn => .noReturn

end

/-! ### Names in use -/

def Machine.Named (m : Machine) : Prop := ∀ s ∈ m.slots, isName s.1 = true

structure Instr.Named (i : Instr) : Prop where
  slot : ∀ s, i.slot? = some s → isName s = true
  values : ∀ v ∈ i.values, v.Named

namespace Operand

theorem isSlot_iff (v : Operand) : v.isSlot = true ↔ v.slot ≠ "" := by simp [isSlot]

@[simp] theorem register_rename (f : String → String) (v : Operand) :
    (v.rename f).register = v.register := by
  unfold rename
  split <;> rfl

@[simp] theorem immediate_rename (f : String → String) (v : Operand) :
    (v.rename f).immediate = v.immediate := by
  unfold rename
  split <;> rfl

end Operand

namespace Instr

@[simp] theorem target_rename (f : String → String) (i : Instr) :
    (i.rename f).target = i.target := by
  cases i <;> rfl

theorem args_rename (f : String → String) {i : Instr} (hi : i.Named) :
    (i.rename f).args = i.args.map (Operand.rename f) := by
  cases i with
  | load r slot => simp [rename, args, Operand.rename_ofSlot f (hi.slot slot rfl)]
  | store v slot => simp [rename, args, Operand.rename_ofSlot f (hi.slot slot rfl)]
  | _ => rfl

theorem Named.args {i : Instr} (hi : i.Named) : ∀ v ∈ i.args, v.Named := by
  intro v hv
  by_cases hmem : v ∈ i.values
  · exact hi.values v hmem
  · -- the other operands that are checked are slots
    cases i with
    | load r slot =>
      obtain rfl := List.mem_singleton.mp hv
      exact fun _ => hi.slot slot rfl
    | store w slot =>
      rcases List.mem_cons.mp hv with rfl | hv
      · exact absurd (List.mem_singleton.mpr rfl) hmem
      · obtain rfl := List.mem_singleton.mp hv
        exact fun _ => hi.slot slot rfl
    | alloca | binary | ret => exact absurd hv hmem

end Instr

namespace Machine

theorem named_initial : initial.Named := by simp [Named, initial]

theorem Named.does {m m' : Machine} {i : Instr} {last : Bool} (hm : m.Named) (hi : i.Named)
    (h : m.Does last i (.inl m')) : m'.Named := by
  cases h with
  | @alloca slot hs =>
    intro s hmem
    rcases List.mem_cons.mp hmem with rfl | hmem
    · exact hi.slot slot rfl
    · exact hm s hmem
  | load hr hs =>
    unfold define
    split <;> exact hm
  | @store v slot x hc hv hs =>
    intro s hmem
    obtain ⟨s₀, hs₀, rfl⟩ := List.mem_map.mp hmem
    split
    · exact hi.slot slot rfl
    · exact hm s₀ hs₀
  | binary =>
    unfold define
    split <;> exact hm

/-! ### Steps -/

variable (ρ : Renaming)

theorem lookup_rename {slots : List (String × UInt32)} (hs : ∀ s ∈ slots, isName s.1 = true)
    {name : String} (hn : isName name = true) :
    (slots.map fun s => (ρ s.1, s.2)).lookup (ρ name) = slots.lookup name := by
  induction slots with
  | nil => rfl
  | cons s slots ih =>
    obtain ⟨key, x⟩ := s
    have hkey : isName key = true := hs (key, x) (List.mem_cons_self ..)
    have hrest := ih fun t ht => hs t (List.mem_cons_of_mem _ ht)
    simp only [List.map_cons, lookup_cons_ite, ρ.eq_iff hn hkey, hrest]

theorem slot?_rename {m : Machine} (hm : m.Named) {name : String} (hn : isName name = true) :
    (m.rename ρ).slot? (ρ name) = m.slot? name :=
  lookup_rename ρ hm hn

theorem setSlot_rename {m : Machine} (hm : m.Named) {name : String} (hn : isName name = true)
    (x : UInt32) : (m.rename ρ).setSlot (ρ name) x = (m.setSlot name x).rename ρ := by
  simp only [setSlot, rename, List.map_map, Machine.mk.injEq, true_and]
  refine List.map_congr_left fun s hs => ?_
  simp only [Function.comp_apply, ρ.eq_iff (hm s hs) hn]
  split <;> rfl

theorem define_rename (m : Machine) (r : Int) (x : UInt32) :
    (m.rename ρ).define r x = (m.define r x).rename ρ := by
  unfold define
  split <;> rfl

theorem checkArg_rename {m : Machine} (hm : m.Named) {v : Operand} (hv : v.Named) :
    (m.rename ρ).checkArg (v.rename ρ) = (m.checkArg v).mapError (RunFault.rename ρ) := by
  have hregister : (m.rename ρ).register? v.register = m.register? v.register := rfl
  simp only [checkArg, Operand.register_rename, Operand.isSlot_rename ρ hv, hregister]
  split
  · split <;> rfl
  · split
    · next hs =>
      rw [Operand.slot_rename ρ hs, slot?_rename ρ hm (hv hs)]
      split <;> rfl
    · rfl

theorem checkArgs_rename {m : Machine} (hm : m.Named) {vs : List Operand}
    (hvs : ∀ v ∈ vs, v.Named) :
    (m.rename ρ).checkArgs (vs.map (Operand.rename ρ)) =
      (m.checkArgs vs).mapError (RunFault.rename ρ) := by
  induction vs with
  | nil => rfl
  | cons v vs ih =>
    have hrest := ih fun w hw => hvs w (List.mem_cons_of_mem _ hw)
    have hv := hvs v (List.mem_cons_self ..)
    simp only [List.map_cons, checkArgs, checkArg_rename ρ hm hv, hrest]
    cases m.checkArg v <;> rfl

theorem eval_rename (m : Machine) {v : Operand} (hv : v.Named) :
    (m.rename ρ).eval (v.rename ρ) = (m.eval v).mapError (RunFault.rename ρ) := by
  have hregister : (m.rename ρ).register? v.register = m.register? v.register := rfl
  have hslot : (v.rename ρ).slot ≠ "" ↔ v.slot ≠ "" := by
    rw [← Operand.isSlot_iff, ← Operand.isSlot_iff, Operand.isSlot_rename ρ hv]
  simp only [eval, Operand.register_rename, Operand.immediate_rename, hslot, hregister]
  split
  · cases m.register? v.register <;> rfl
  · split
    · cases Text.readUnsigned UInt64.size v.immediate <;> rfl
    · split <;> rfl

/-- The faults of an operation name no slot. -/
theorem rename_of_apply_eq_error (f : String → String) {operation : String} {x y : UInt32}
    {fault : RunFault} (h : apply operation x y = .error fault) : fault.rename f = fault := by
  unfold apply at h
  repeat' split at h
  all_goals cases h
  all_goals rfl

/-- What a step gives, with all slots renamed. -/
def renameStep (f : String → String) :
    Except RunFault (Machine ⊕ UInt32) → Except RunFault (Machine ⊕ UInt32)
  | .error fault => .error (fault.rename f)
  | .ok (.inl m) => .ok (.inl (m.rename f))
  | .ok (.inr x) => .ok (.inr x)

theorem step_rename {m : Machine} (hm : m.Named) {i : Instr} (hi : i.Named) (last : Bool) :
    (m.rename ρ).step (i.rename ρ) last = renameStep ρ (m.step i last) := by
  have hnext : (m.rename ρ).nextRegister = m.nextRegister := rfl
  unfold step
  rw [Instr.args_rename ρ hi, checkArgs_rename ρ hm hi.args, Instr.target_rename, hnext]
  cases m.checkArgs i.args with
  | error fault => rfl
  | ok u =>
    simp only [Except.mapError, bind, Except.bind]
    split
    · rfl
    · cases i with
      | alloca slot =>
        have hs := hi.slot slot rfl
        simp only [Instr.rename, slot?_rename ρ hm hs]
        split <;> rfl
      | load r slot =>
        have hs := hi.slot slot rfl
        simp only [Instr.rename, slot?_rename ρ hm hs]
        cases m.slot? slot with
        | none => rfl
        | some x =>
          simp only [define_rename]
          rfl
      | store v slot =>
        have hs := hi.slot slot rfl
        have hv : v.Named := hi.values v (List.mem_singleton.mpr rfl)
        simp only [Instr.rename, slot?_rename ρ hm hs, eval_rename ρ m hv, setSlot_rename ρ hm hs]
        cases m.eval v with
        | error fault => rfl
        | ok x =>
          simp only [Except.mapError]
          split <;> rfl
      | binary r operation v w =>
        have hv : v.Named := hi.values v (by simp [Instr.values])
        have hw : w.Named := hi.values w (by simp [Instr.values])
        simp only [Instr.rename, eval_rename ρ m hv, eval_rename ρ m hw, define_rename]
        cases m.eval v with
        | error fault => rfl
        | ok x =>
          cases m.eval w with
          | error fault => rfl
          | ok y =>
            simp only [Except.mapError]
            cases hz : apply operation x y with
            | error fault => simp [renameStep, rename_of_apply_eq_error ρ hz]
            | ok z => rfl
      | ret v =>
        have hv : v.Named := hi.values v (List.mem_singleton.mpr rfl)
        simp only [Instr.rename, eval_rename ρ m hv]
        split
        · cases m.eval v <;> rfl
        · rfl

/-! ### Runs -/

theorem run_rename {m : Machine} (hm : m.Named) {code : List Instr} (hcode : ∀ i ∈ code, i.Named)
    (k : Nat) :
    (m.rename ρ).run k (code.map (Instr.rename ρ)) =
      (m.run k code).mapError (RunError.rename ρ) := by
  induction code generalizing m k with
  | nil => rfl
  | cons i rest ih =>
    have hi := hcode i (List.mem_cons_self ..)
    simp only [List.map_cons, run, List.isEmpty_map, step_rename ρ hm hi]
    cases hstep : m.step i rest.isEmpty with
    | error fault => rfl
    | ok r =>
      cases r with
      | inr x => rfl
      | inl m' =>
        have hm' := hm.does hi (does_of_step hstep)
        exact ih hm' (fun j hj => hcode j (List.mem_cons_of_mem _ hj)) (k + 1)

end Machine

theorem Function.run_rename (ρ : Renaming) {fn : Function} (h : ∀ i ∈ fn.code, i.Named) :
    (fn.rename ρ).run = fn.run.mapError (RunError.rename ρ) := by
  have hrun := Machine.run_rename ρ Machine.named_initial h 0
  rw [show Machine.initial.rename ρ = Machine.initial from rfl] at hrun
  simp only [Function.run, Function.rename, hrun]
  cases Machine.initial.run 0 fn.code <;> rfl

/-! ### Programs -/

theorem named_generate {p : Program} {name : String} {g : Generated} {l : Layout}
    (hp : ∀ s ∈ p, s.isStatement = true) (h : generate p name = (.ok g, l)) :
    ∀ i ∈ g.function.code, i.Named := by
  have hnames := isName_of_mem_slots hp h
  have husable : ∀ {l₁ : Layout} {v : Operand}, v.Usable l₁ → v.Named := by
    intro l₁ v hv hs
    rw [Operand.isSlot_of_usable hv] at hs
    cases hs
  intro i hi
  rcases (returns_generate hp h).1.exists_moves hi with ⟨l₁, l₂, hmoves, _, hslots⟩ | ⟨w, rfl, hw⟩
  · refine ⟨fun s hs => hnames s (hslots ?_), fun v hv => husable (hmoves.usable v hv)⟩
    cases hmoves with
    | alloca =>
      cases hs
      exact List.mem_cons_self ..
    | load hmem =>
      cases hs
      exact hmem
    | store _ hmem =>
      cases hs
      exact hmem
    | binary => cases hs
  · refine ⟨by simp [Instr.slot?], fun v hv => ?_⟩
    obtain rfl := List.mem_singleton.mp hv
    exact husable hw

/-- A program that was built from a text has under other names the same code with its slots
renamed, and running it gives the same value or a fault at the same instruction. If the program
has no code, it has none under other names, for the same reason. -/
theorem generate_run_rename {source : List UInt8} {ls : List Lexeme} {events : List BuildEvent}
    {p : Program} (hscan : tokenize source = .ok ls) (hbuild : build ls = (events, .ok p))
    (ρ : Renaming) (name : String) :
    (∀ g, (generate p name).1 = .ok g →
      (generate (p.rename ρ) name).1 = .ok (g.rename ρ) ∧
      (g.rename ρ).function.run = g.function.run.mapError (RunError.rename ρ)) ∧
    ∀ err, (generate p name).1 = .error err →
      (generate (p.rename ρ) name).1 = .error (err.rename ρ) := by
  have hp := isStatement_of_build hscan hbuild
  rw [generate_rename ρ hp name]
  cases hgen : generate p name with
  | mk r l =>
    cases r with
    | error err =>
      refine ⟨by rintro g ⟨⟩, ?_⟩
      rintro _ ⟨⟩
      rfl
    | ok g =>
      refine ⟨?_, by rintro err ⟨⟩⟩
      rintro _ ⟨⟩
      exact ⟨rfl, Function.run_rename ρ (named_generate hp hgen)⟩

/-- The names `a` and `b` exchanged. -/
def exchange : Renaming where
  name x := if x = "a" then "b" else if x = "b" then "a" else x
  injective := by grind
  ne_empty := by grind [ne_empty_of_isName]

/-- The statements of `a = 8; b = a / 2; a - b`. -/
def leftover : Program :=
  [.assign ⟨1, 3⟩ "a" (.literal ⟨1, 5⟩ "8"),
    .assign ⟨1, 10⟩ "b" (.binary ⟨1, 14⟩ (.var ⟨1, 12⟩ "a") (.known .div) (.literal ⟨1, 16⟩ "2")),
    .binary ⟨1, 21⟩ (.var ⟨1, 19⟩ "a") (.known .sub) (.var ⟨1, 23⟩ "b")]

def leftoverCode (a b : String) : Generated :=
  ⟨⟨"main", [.alloca a, .store (.ofImmediate "8") a, .load 1 a,
    .binary 2 "udiv" (.ofRegister 1) (.ofImmediate "2"), .alloca b, .store (.ofRegister 2) b,
    .load 3 a, .load 4 b, .binary 5 "sub" (.ofRegister 3) (.ofRegister 4),
    .ret (.ofRegister 5)], 5⟩, 0⟩

theorem generate_run_rename_exchange :
    (∃ ls events, tokenize (Text.encode "a = 8; b = a / 2; a - b") = .ok ls ∧
      build ls = (events, .ok leftover)) ∧
    (generate leftover "main").1 = .ok (leftoverCode "a" "b") ∧
    (generate (leftover.rename exchange) "main").1 = .ok (leftoverCode "b" "a") ∧
    (leftoverCode "a" "b").function.run = .ok 4 ∧ (leftoverCode "b" "a").function.run = .ok 4 := by
  have hscan := tokenize_eq (Text.encode "a = 8; b = a / 2; a - b")
  have hbuild : ∃ events, build (scanned .start (Text.trim (Text.decode (Text.encode
      "a = 8; b = a / 2; a - b")))) = (events, .ok leftover) :=
    ⟨_, Prod.ext rfl (by decide +kernel)⟩
  obtain ⟨events, hbuild⟩ := hbuild
  have hgen : (generate leftover "main").1 = .ok (leftoverCode "a" "b") := by decide +kernel
  have hrun : (leftoverCode "a" "b").function.run = .ok 4 := by decide +kernel
  have hcode : (leftoverCode "a" "b").rename exchange = leftoverCode "b" "a" := by
    decide +kernel
  have hboth := (generate_run_rename hscan hbuild exchange "main").1 _ hgen
  rw [hcode, hrun] at hboth
  exact ⟨⟨_, events, hscan, hbuild⟩, hgen, hboth.1, hrun, hboth.2⟩

end ArithCompiler
