import ArithCompiler.Code.Function
import ArithCompiler.Text.Numeral

/-!
# Running code

A machine has registers and slots of 32-bit words. Arithmetic wraps and division
is unsigned. Before an instruction is run its operands are checked: registers
must be defined and slots allocated. Registers are defined in order, no slot is
allocated twice, and a return is the last instruction and must be there.
-/

namespace ArithCompiler

structure Machine where
  /-- Values of the registers, from the first one on. -/
  registers : Array UInt32
  slots : List (String × UInt32)
deriving DecidableEq, Repr

/-- Why an instruction cannot be run. -/
inductive RunFault where
  | undefinedRegister (v : Operand)
  | unallocatedSlot (v : Operand)
  | wrongTarget (expected : Int)
  | allocatedTwice (slot : String)
  | invalidImmediate (digits : String) (fault : Text.NumeralFault)
  | slotAsValue (v : Operand)
  | emptyValue
  | divisionByZero
  | unknownOperation (name : String)
  | afterReturn
  /-- A slot without a name is touched and is not there. -/
  | missingSlot
deriving DecidableEq, Repr

namespace RunFault

def message : RunFault → String
  | .undefinedRegister v => "register " ++ v.render ++ " is not defined"
  | .unallocatedSlot v => "slot " ++ v.render ++ " is not allocated"
  | .wrongTarget n => "expected register %" ++ toString n ++ " to be defined next"
  | .allocatedTwice slot => "slot %" ++ slot ++ " allocated twice"
  | .invalidImmediate digits fault =>
    "invalid immediate " ++ digits ++ ": strconv.ParseUint: parsing " ++ Text.quote digits ++
      ": " ++ fault.message
  | .slotAsValue v => "slot " ++ v.render ++ " used as a value"
  | .emptyValue => "empty value"
  | .divisionByZero => "division by zero"
  | .unknownOperation name => "unknown operation " ++ Text.quote name
  | .afterReturn => "instructions after return"
  | .missingSlot => "runtime error: invalid memory address or nil pointer dereference"

end RunFault

/-- Why a function has no result. -/
inductive RunError where
  | atInstr (index : Nat) (instr : Instr) (fault : RunFault)
  | noReturn
deriving DecidableEq, Repr

namespace RunError

/-- The instruction and the fault. A missing slot is reported bare. -/
def message : RunError → String
  | .atInstr _ _ .missingSlot => RunFault.missingSlot.message
  | .atInstr index instr fault =>
    "op " ++ toString index ++ " (" ++ instr.text ++ "): " ++ fault.message
  | .noReturn => "function does not return"

end RunError

namespace Machine

def initial : Machine := ⟨#[], []⟩

/-- The register that must be defined next. -/
def nextRegister (m : Machine) : Int := m.registers.size + 1

/-- The value of a defined register. -/
def register? (m : Machine) (n : Int) : Option UInt32 :=
  if n > 0 then m.registers[n.toNat - 1]? else none

def slot? (m : Machine) (name : String) : Option UInt32 := m.slots.lookup name

/-! ### Operands -/

/-- Checks one operand that an instruction reads. -/
def checkArg (m : Machine) (v : Operand) : Except RunFault Unit :=
  if v.register > 0 then
    if (m.register? v.register).isSome then .ok () else .error (.undefinedRegister v)
  else if v.isSlot then
    if (m.slot? v.slot).isSome then .ok () else .error (.unallocatedSlot v)
  else .ok ()

/-- Checks operands in order. -/
def checkArgs (m : Machine) : List Operand → Except RunFault Unit
  | [] => .ok ()
  | v :: vs =>
    match m.checkArg v with
    | .error e => .error e
    | .ok () => m.checkArgs vs

/-- The value of an operand. Immediates are below `2 ^ 64` and are cut to a word. -/
def eval (m : Machine) (v : Operand) : Except RunFault UInt32 :=
  if v.register > 0 then
    match m.register? v.register with
    | some x => .ok x
    | none => .error (.undefinedRegister v)
  else if v.immediate ≠ "" then
    match Text.readUnsigned UInt64.size v.immediate with
    | .ok n => .ok (UInt32.ofNat n)
    | .error fault => .error (.invalidImmediate v.immediate fault)
  else if v.slot ≠ "" then .error (.slotAsValue v)
  else .error .emptyValue

/-- A named operation on two words. -/
def apply (operation : String) (x y : UInt32) : Except RunFault UInt32 :=
  if operation = "add" then .ok (x + y)
  else if operation = "sub" then .ok (x - y)
  else if operation = "mul" then .ok (x * y)
  else if operation = "udiv" then
    if y = 0 then .error .divisionByZero else .ok (x / y)
  else .error (.unknownOperation operation)

/-! ### Instructions -/

/-- The new value of a slot, in the place of the old one. -/
def setSlot (m : Machine) (name : String) (x : UInt32) : Machine :=
  { m with slots := m.slots.map fun s => if s.1 = name then (name, x) else s }

/-- Gives `x` to the register `result`. Register zero is not kept. -/
def define (m : Machine) (result : Int) (x : UInt32) : Machine :=
  if result = 0 then m else { m with registers := m.registers.push x }

/-- The machine after an instruction, or the result of a return. `last` says
whether no instruction follows. -/
def step (m : Machine) (i : Instr) (last : Bool) : Except RunFault (Machine ⊕ UInt32) := do
  m.checkArgs i.args
  if i.target ≠ 0 && i.target ≠ m.nextRegister then
    throw (.wrongTarget m.nextRegister)
  match i with
  | .alloca slot =>
    if (m.slot? slot).isSome then throw (.allocatedTwice slot)
    else return .inl { m with slots := (slot, 0) :: m.slots }
  | .load result slot =>
    match m.slot? slot with
    | some x => return .inl (m.define result x)
    | none => throw .missingSlot
  | .store value slot =>
    let x ← m.eval value
    if (m.slot? slot).isSome then return .inl (m.setSlot slot x) else throw .missingSlot
  | .binary result operation left right =>
    let x ← m.eval left
    let y ← m.eval right
    let z ← apply operation x y
    return .inl (m.define result z)
  | .ret value =>
    if last then return .inr (← m.eval value) else throw .afterReturn

/-- Runs instructions, the first of which has number `index`. -/
def run (index : Nat) (m : Machine) : List Instr → Except RunError UInt32
  | [] => .error .noReturn
  | i :: rest =>
    match m.step i rest.isEmpty with
    | .error fault => .error (.atInstr index i fault)
    | .ok (.inr x) => .ok x
    | .ok (.inl m') => run (index + 1) m' rest

end Machine

/-- The result of a function, read as a signed word (`SPEC_FULL.md` §16). -/
def Function.run (f : Function) : Except RunError Int32 :=
  (Machine.initial.run 0 f.code).map UInt32.toInt32

end ArithCompiler
