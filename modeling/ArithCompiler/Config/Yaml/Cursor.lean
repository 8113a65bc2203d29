import ArithCompiler.Config.Yaml.Character

/-!
# A place in a settings file

A cursor holds what is left of a text and where it stands, by line and column
from zero.
-/

namespace ArithCompiler.Config.Yaml

structure Cursor where
  rest : List Char
  /-- The number of characters before the cursor. -/
  index : Nat
  line : Nat
  column : Nat

namespace Cursor

def ofChars (cs : List Char) : Cursor := ⟨cs, 0, 0, 0⟩

def head? (c : Cursor) : Option Char := c.rest.head?

/-- Passes characters of the present line. -/
def skip (c : Cursor) (n : Nat) : Cursor :=
  ⟨c.rest.drop n, c.index + n, c.line, c.column + n⟩

/-- The characters of a class that holds no breaks, and the cursor behind them. -/
def takeWhile (c : Cursor) (p : Char → Bool) : List Char × Cursor :=
  let cs := c.rest.takeWhile p
  (cs, c.skip cs.length)

def skipWhile (c : Cursor) (p : Char → Bool) : Cursor := (c.takeWhile p).2

/-! ### Lines -/

/-- The text of a break: two characters keep their own, all others are newlines. -/
def breakText (c : Char) : Char := if c.toNat = 0x2028 || c.toNat = 0x2029 then c else '\n'

/-- The text of the break at the cursor, and the cursor on the next line. -/
def lineEnd? (c : Cursor) : Option (List Char × Cursor) :=
  match c.rest with
  | '\r' :: '\n' :: rest => some (['\n'], ⟨rest, c.index + 2, c.line + 1, 0⟩)
  | b :: rest =>
    if isBreak b then some ([breakText b], ⟨rest, c.index + 1, c.line + 1, 0⟩) else none
  | [] => none

/-- Passes the break at the cursor, if there is one. -/
def nextLine (c : Cursor) : Cursor :=
  match c.lineEnd? with
  | some (_, c) => c
  | none => c

/-- Passes a comment at the cursor, up to the end of its line. -/
def skipComment (c : Cursor) : Cursor :=
  if c.head? = some '#' then c.skipWhile fun a => !isBreak a else c

/-! ### Document markers -/

/-- Whether a text starts with three times a character and then a gap. -/
def startsMarker (m : Char) : List Char → Bool
  | a :: b :: d :: rest => a == m && b == m && d == m && isGap rest.head?
  | _ => false

/-- Whether a line starts here that begins a document. -/
def atStartMarker (c : Cursor) : Bool := c.column = 0 && startsMarker '-' c.rest

/-- Whether a line starts here that ends a document. -/
def atEndMarker (c : Cursor) : Bool := c.column = 0 && startsMarker '.' c.rest

def atMarker (c : Cursor) : Bool := c.atStartMarker || c.atEndMarker

end Cursor

end ArithCompiler.Config.Yaml
