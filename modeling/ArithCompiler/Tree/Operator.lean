/-!
# Operators

The four operators and their rank. A tree holds an operator by number, and
numbers that no operator has can be written down too; `OpCode` keeps the two
apart.
-/

namespace ArithCompiler

inductive Operator where
  | add
  | sub
  | mul
  | div
deriving DecidableEq, Repr

namespace Operator

/-- Operators of higher rank bind tighter (`SPEC_FULL.md` §3, OperatorKind). -/
def rank : Operator → Nat
  | .add | .sub => 0
  | .mul | .div => 1

def symbol : Operator → String
  | .add => "+"
  | .sub => "-"
  | .mul => "*"
  | .div => "/"

def ofSymbol? (s : String) : Option Operator :=
  if s = "+" then some .add
  else if s = "-" then some .sub
  else if s = "*" then some .mul
  else if s = "/" then some .div
  else none

theorem ofSymbol?_symbol (op : Operator) : ofSymbol? op.symbol = some op := by
  cases op <;> decide

end Operator

/-- The operator of a tree node: one of the four, or a number that none has. -/
inductive OpCode where
  | known (op : Operator)
  | unassigned (n : Int)
deriving DecidableEq, Repr

namespace OpCode

def ofInt (n : Int) : OpCode :=
  if n = 0 then .known .add
  else if n = 1 then .known .sub
  else if n = 2 then .known .mul
  else if n = 3 then .known .div
  else .unassigned n

def toInt : OpCode → Int
  | .known .add => 0
  | .known .sub => 1
  | .known .mul => 2
  | .known .div => 3
  | .unassigned n => n

theorem toInt_ofInt (n : Int) : (ofInt n).toInt = n := by
  grind [ofInt, toInt]

/-- The symbol; an unassigned number is shown as such. -/
def render : OpCode → String
  | .known op => op.symbol
  | .unassigned n => "Operator(" ++ toString n ++ ")"

/-- The rank, which an unassigned number does not have. -/
def rank? : OpCode → Option Nat
  | .known op => some op.rank
  | .unassigned _ => none

/-- What is reported when the rank of an unassigned number is asked for. -/
def rankFault (c : OpCode) : String := "unknown operator: " ++ toString c.toInt

end OpCode

end ArithCompiler
