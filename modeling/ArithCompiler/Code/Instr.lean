import ArithCompiler.Text.LetterCase
import ArithCompiler.Text.Quoted

/-!
# Instructions

The target code (`SPEC_FULL.md` §6, Output) is one straight list of instructions on 32-bit integers.
Registers are numbered from one in the order in which they are defined; named
slots on the stack hold the variables. An operand has three fields, of which the
first one that is set counts: a positive register, an immediate, a slot.
-/

namespace ArithCompiler

/-! ### Pointer styles -/

/-- How slot pointers are spelled: without or with the type pointed to. Numbers
that no style has are spelled without. -/
inductive PointerStyle where
  | untyped
  | typed
  | unassigned (code : Int)
deriving DecidableEq, Repr

namespace PointerStyle

def ofCode (n : Int) : PointerStyle :=
  if n = 0 then .untyped else if n = 1 then .typed else .unassigned n

def code : PointerStyle → Int
  | .untyped => 0
  | .typed => 1
  | .unassigned n => n

def name : PointerStyle → String
  | .typed => "typed"
  | .untyped | .unassigned _ => "opaque"

/-- The type of a slot pointer. -/
def pointerType : PointerStyle → String
  | .typed => "i32*"
  | .untyped | .unassigned _ => "ptr"

/-- Reads a style by its name in any case; the empty name is the default style. -/
def parse (s : String) : Except String PointerStyle :=
  let t := Text.lower s
  if t = "" || t = "opaque" then .ok .untyped
  else if t = "typed" then .ok .typed
  else .error ("unknown pointer style " ++ Text.quote s)

end PointerStyle

/-! ### Operands -/

structure Operand where
  register : Int
  immediate : String
  slot : String
deriving DecidableEq, Repr

namespace Operand

/-- No field is set. -/
def none : Operand := ⟨0, "", ""⟩

def ofRegister (n : Int) : Operand := ⟨n, "", ""⟩

def ofImmediate (digits : String) : Operand := ⟨0, digits, ""⟩

def ofSlot (name : String) : Operand := ⟨0, "", name⟩

def isSlot (v : Operand) : Bool := v.slot != ""

def isNone (v : Operand) : Bool := v == none

/-- The text of an operand, which one without a usable field does not have. -/
def render? (v : Operand) : Option String :=
  if v.register > 0 then some ("%" ++ toString v.register)
  else if v.immediate ≠ "" then some v.immediate
  else if v.slot ≠ "" then some ("%" ++ v.slot)
  else Option.none

/-- What is reported when an operand has no text. -/
def invalidText (v : Operand) : String :=
  "invalid value: ir.Value\x7bRegister:" ++ toString v.register ++ ", Immediate:" ++
    Text.quote v.immediate ++ ", Slot:" ++ Text.quote v.slot ++ "\x7d"

/-- The text inside an instruction; an operand without text is marked. -/
def render (v : Operand) : String :=
  match v.render? with
  | some s => s
  | Option.none => "%!s(PANIC=String method: " ++ v.invalidText ++ ")"

end Operand

/-! ### Instructions -/

inductive Instr where
  | alloca (slot : String)
  | load (result : Int) (slot : String)
  | store (value : Operand) (slot : String)
  | binary (result : Int) (operation : String) (left right : Operand)
  | ret (value : Operand)
deriving DecidableEq, Repr

namespace Instr

/-- The register that is defined, or zero. -/
def target : Instr → Int
  | .load r _ => r
  | .binary r _ _ _ => r
  | .alloca _ | .store _ _ | .ret _ => 0

/-- The operands that are read. -/
def args : Instr → List Operand
  | .alloca _ => []
  | .load _ slot => [.ofSlot slot]
  | .store value slot => [value, .ofSlot slot]
  | .binary _ _ left right => [left, right]
  | .ret value => [value]

def render (style : PointerStyle) : Instr → String
  | .alloca slot => "%" ++ slot ++ " = alloca i32"
  | .load r slot => "%" ++ toString r ++ " = load i32, " ++ style.pointerType ++ " %" ++ slot
  | .store v slot => "store i32 " ++ v.render ++ ", " ++ style.pointerType ++ " %" ++ slot
  | .binary r op left right =>
    "%" ++ toString r ++ " = " ++ op ++ " i32 " ++ left.render ++ ", " ++ right.render
  | .ret v => "ret i32 " ++ v.render

/-- The text in the default style, as messages show it. -/
def text (i : Instr) : String := i.render .untyped

end Instr

end ArithCompiler
