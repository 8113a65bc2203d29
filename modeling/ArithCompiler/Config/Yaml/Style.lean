import ArithCompiler.Config.Scalar
import ArithCompiler.Config.Yaml.Character

/-!
# How a scalar is written

A text is written plain if it reads back as itself, in quotes otherwise, and as
an indented block if it has several lines. What stands in the way of a plain
scalar is an indicator (a character with a meaning of its own), a blank at either
end, or a character that cannot be printed.
-/

namespace ArithCompiler.Config.Yaml

inductive Style where
  | plain
  | singleQuoted
  | doubleQuoted
  | literal
deriving DecidableEq, Repr

/-! ### Indicators -/

/-- A blank or the end of a text. -/
def endsWord (c : Option Char) : Bool :=
  match c with
  | none => true
  | some c => isBlank c

/-- Characters that no plain scalar starts with. -/
def leadingIndicators : List Char :=
  ['#', ',', '[', ']', '\x7b', '\x7d', '&', '*', '!', '|', '>', '\x27', '"', '%', '@', '\x60']

/-- An indicator at the start of a scalar. -/
def startsWithIndicator : List Char → Bool
  | [] => false
  | c :: cs =>
    c ∈ leadingIndicators || ((c == '?' || c == ':' || c == '-') && endsWord cs.head?) ||
      (c :: cs).take 3 == ['-', '-', '-'] || (c :: cs).take 3 == ['.', '.', '.']

/-- A colon at the end of a word, or a number sign at the start of one, after the
character `before`. -/
def hasInnerIndicator (before : Char) : List Char → Bool
  | [] => false
  | c :: cs =>
    (c == ':' && endsWord cs.head?) ||
      (c == '#' && (isBlank before || isBreak before || before.toNat = 0)) ||
      hasInnerIndicator c cs

def hasIndicator (cs : List Char) : Bool :=
  startsWithIndicator cs || hasInnerIndicator (cs.headD ' ') cs.tail

/-! ### Blanks and breaks -/

/-- Whether a character of one class follows one of another. -/
def hasPair (p q : Char → Bool) : List Char → Bool
  | a :: b :: rest => (p a && q b) || hasPair p q (b :: rest)
  | _ => false

def atEdge (p : Char → Bool) (cs : List Char) : Bool :=
  cs.head?.any p || cs.getLast?.any p

/-- Whether a text can stand without quotes. -/
def plainAllowed (cs : List Char) : Bool :=
  !hasIndicator cs && !cs.any isBreak && !atEdge isSpace cs && cs.all isPrintable

/-- Whether a text can stand in single quotes. -/
def singleAllowed (cs : List Char) : Bool :=
  !hasPair isBreak isSpace cs && !hasPair isSpace isBreak cs && cs.all isPrintable

/-- Whether a text can stand in a block. -/
def blockAllowed (cs : List Char) : Bool :=
  !cs.getLast?.any isSpace && !hasPair isSpace isBreak cs && cs.all isPrintable

/-! ### Choice -/

/-- The style of a text. -/
def styleOf (s : String) : Style :=
  let cs := s.toList
  if '\n' ∈ cs then
    if blockAllowed cs then .literal else .doubleQuoted
  else if Scalar.needsQuotes s then .doubleQuoted
  else if plainAllowed cs then .plain
  else if singleAllowed cs then .singleQuoted
  else .doubleQuoted

/-- A key that stands on a line with its value is not long and has no breaks. -/
def isSimpleKey (s : String) : Bool := !s.toList.any isBreak && s.utf8ByteSize ≤ 128

end ArithCompiler.Config.Yaml
