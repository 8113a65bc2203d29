/-!
# Reading decimal numbers

A number is read from the left, digit by digit. Reading stops at the first
character that is no digit or the first digit that takes the value out of range,
whichever comes first.
-/

namespace ArithCompiler.Text

/-- Why a text is not a number. -/
inductive NumeralFault where
  | malformed
  | outOfRange
deriving DecidableEq, Repr

namespace NumeralFault

def message : NumeralFault → String
  | .malformed => "invalid syntax"
  | .outOfRange => "value out of range"

end NumeralFault

/-- The value of a decimal digit. -/
def digitValue? (c : Char) : Option Nat :=
  if '0' ≤ c && c ≤ '9' then some (c.toNat - 48) else none

/-- Reads digits after those that gave `n`; values stay below `limit`. -/
def readDigits (limit : Nat) : Nat → List Char → Except NumeralFault Nat
  | n, [] => .ok n
  | n, c :: cs =>
    match digitValue? c with
    | none => .error .malformed
    | some d => if n * 10 + d < limit then readDigits limit (n * 10 + d) cs else .error .outOfRange

/-- An unsigned decimal number below `limit`. -/
def readUnsigned (limit : Nat) (s : String) : Except NumeralFault Nat :=
  match s.toList with
  | [] => .error .malformed
  | cs => readDigits limit 0 cs

/-- A decimal number with an optional sign, in the range of 64-bit integers. -/
def readSigned (s : String) : Except NumeralFault Int :=
  match s.toList with
  | '-' :: c :: cs => (readDigits (Nat.pow 2 63 + 1) 0 (c :: cs)).map fun n => - (n : Int)
  | '+' :: c :: cs => (readDigits (Nat.pow 2 63) 0 (c :: cs)).map Int.ofNat
  | c :: cs => (readDigits (Nat.pow 2 63) 0 (c :: cs)).map Int.ofNat
  | [] => .error .malformed

end ArithCompiler.Text
