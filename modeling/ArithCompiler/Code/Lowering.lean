import ArithCompiler.Code.Function
import ArithCompiler.Tree.Expr

/-!
# From trees to code

Lowering works in post order. It threads a layout: the slots allocated so far
and the first free register. Each name has one slot, allocated where the name is
first assigned; a name can be read only after that.

The layout is handed on also when lowering fails, with all that was allocated
and counted before the failure.
-/

namespace ArithCompiler

/-- Slots allocated so far, and the first free register. -/
structure Layout where
  slots : List String
  next : Int
deriving DecidableEq, Repr

/-- Registers are numbered from one. -/
def firstRegister : Int := 1

def Layout.initial : Layout := ⟨[], firstRegister⟩

/-! ### Errors -/

inductive LoweringError where
  /-- There is a hole. -/
  | incompleteTree
  /-- A name is read before it has a slot. -/
  | unassigned (name : String) (loc : Location)
  /-- The tree yields nothing that can be an operand. -/
  | noValue (e : Expr)
  /-- The operator has a number that none has. -/
  | unknownOperator (n : Int)
deriving DecidableEq, Repr

namespace LoweringError

def message : LoweringError → String
  | .incompleteTree => "expression contains an unfilled operand"
  | .unassigned name loc => name ++ " at " ++ loc.render ++ ": variable read before assignment"
  | .noValue e => e.render ++ " has no value"
  | .unknownOperator n => "unknown operator: " ++ (OpCode.unassigned n).render

end LoweringError

/-! ### Expressions -/

/-- The name of the instruction for an operator. Division is unsigned. -/
def Operator.mnemonic : Operator → String
  | .add => "add"
  | .sub => "sub"
  | .mul => "mul"
  | .div => "udiv"

/-- Code and the operand that holds its result. -/
abbrev Lowered := Except LoweringError (List Instr × Operand)

/-- Loads a slot into a fresh register; other operands stay as they are. -/
def readSlot (v : Operand) (l : Layout) : List Instr × Operand × Layout :=
  if v.isSlot then
    ([.load l.next v.slot], .ofRegister l.next, { l with next := l.next + 1 })
  else ([], v, l)

/-- Makes what `e` was lowered to usable as an operand. -/
def asOperand (e : Expr) (r : Lowered × Layout) : Lowered × Layout :=
  match r with
  | (.error err, l) => (.error err, l)
  | (.ok (code, v), l) =>
    if v.isNone then (.error (.noValue e), l)
    else
      let (reads, v', l') := readSlot v l
      (.ok (code ++ reads, v'), l')

/-- The code of a tree (`SPEC_FULL.md` §4.3). A `return` yields no operand, an assignment its
slot, which is allocated by the first assignment only (§17). -/
def lower : Expr → Layout → Lowered × Layout
  | .hole, l => (.error .incompleteTree, l)
  | .literal _ digits, l => (.ok ([], .ofImmediate digits), l)
  | .var loc name, l =>
    if name ∈ l.slots then
      (.ok ([.load l.next name], .ofRegister l.next), { l with next := l.next + 1 })
    else (.error (.unassigned name loc), l)
  | .binary _ left op right, l =>
    match asOperand left (lower left l) with
    | (.error err, l₁) => (.error err, l₁)
    | (.ok (code₁, v₁), l₁) =>
      match asOperand right (lower right l₁) with
      | (.error err, l₂) => (.error err, l₂)
      | (.ok (code₂, v₂), l₂) =>
        match op with
        | .unassigned n => (.error (.unknownOperator n), l₂)
        | .known op =>
          (.ok (code₁ ++ code₂ ++ [.binary l₂.next op.mnemonic v₁ v₂], .ofRegister l₂.next),
            { l₂ with next := l₂.next + 1 })
  | .assign _ name value, l =>
    match asOperand value (lower value l) with
    | (.error err, l₁) => (.error err, l₁)
    | (.ok (code, v), l₁) =>
      if name ∈ l₁.slots then (.ok (code ++ [.store v name], .ofSlot name), l₁)
      else
        (.ok (code ++ [.alloca name, .store v name], .ofSlot name),
          { l₁ with slots := name :: l₁.slots })
  | .ret _ value, l =>
    match asOperand value (lower value l) with
    | (.error err, l₁) => (.error err, l₁)
    | (.ok (code, v), l₁) => (.ok (code ++ [.ret v], .none), l₁)
  | .group _ inner, l => lower inner l

/-! ### Programs -/

/-- An error in a statement, which is counted from one. -/
structure GenerateError where
  statement : Nat
  loc : Option Location
  cause : LoweringError
deriving DecidableEq, Repr

namespace GenerateError

/-- The statement and the cause. An unknown operator is reported bare. -/
def message (e : GenerateError) : String :=
  match e.cause, e.loc with
  | .unknownOperator n, _ => (LoweringError.unknownOperator n).message
  | cause, some loc =>
    "statement " ++ toString e.statement ++ " at " ++ loc.render ++ ": " ++ cause.message
  | cause, none => "statement " ++ toString e.statement ++ ": " ++ cause.message

end GenerateError

/-- The code of some statements. -/
structure Body where
  code : List Instr
  /-- The operand of the last statement. -/
  value : Operand
  /-- Whether the last statement lowered is a return. -/
  returned : Bool
  /-- The number of statements after a return. -/
  skipped : Nat
deriving DecidableEq, Repr

/-- Lowers statements, the first of which has number `i`, up to a return
(`SPEC_FULL.md` §17). -/
def lowerAll (i : Nat) (last : Operand) : List Expr → Layout → Except GenerateError Body × Layout
  | [], l => (.ok ⟨[], last, false, 0⟩, l)
  | s :: rest, l =>
    match lower s l with
    | (.error err, l₁) => (.error ⟨i, s.loc?, err⟩, l₁)
    | (.ok (code, v), l₁) =>
      if s.isReturn then (.ok ⟨code, v, true, rest.length⟩, l₁)
      else
        match lowerAll (i + 1) v rest l₁ with
        | (.error err, l₂) => (.error err, l₂)
        | (.ok body, l₂) => (.ok { body with code := code ++ body.code }, l₂)

/-- What generating a function gives. -/
structure Generated where
  function : Function
  /-- The number of statements after a return, which have no code. -/
  skipped : Nat
deriving DecidableEq, Repr

/-- The function of a program, from an empty layout. Without a return it returns
the value of the last statement, or zero if there is none (`SPEC_FULL.md` §17). -/
def generate (p : Program) (name : String) : Except GenerateError Generated × Layout :=
  match lowerAll 1 (.ofImmediate "0") p .initial with
  | (.error err, l) => (.error err, l)
  | (.ok body, l) =>
    if body.returned then
      (.ok ⟨⟨name, body.code, l.next - firstRegister⟩, body.skipped⟩, l)
    else
      let (reads, v, l') := readSlot body.value l
      (.ok ⟨⟨name, body.code ++ reads ++ [.ret v], l'.next - firstRegister⟩, 0⟩, l')

end ArithCompiler
