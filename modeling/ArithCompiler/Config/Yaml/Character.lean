/-!
# Characters of settings files

Blanks stand inside lines and breaks end them. A file holds no control characters
apart from these.
-/

namespace ArithCompiler.Config.Yaml

def isSpace (c : Char) : Bool := c == ' '

def isBlank (c : Char) : Bool := c == ' ' || c == '\t'

/-- A character that ends a line. -/
def isBreak (c : Char) : Bool := c.toNat ∈ [0x0A, 0x0D, 0x85, 0x2028, 0x2029]

/-- A blank, a break or the end of the text: nothing that goes on with a word. -/
def isGap (c : Option Char) : Bool := c.all fun c => isBlank c || isBreak c

/-- A character that a file may hold. -/
def isAllowed (c : Char) : Bool :=
  let n := c.toNat
  n = 0x09 || n = 0x0A || n = 0x0D || (0x20 ≤ n && n ≤ 0x7E) || n = 0x85 ||
    (0xA0 ≤ n && n ≤ 0xD7FF) || (0xE000 ≤ n && n ≤ 0xFFFD) || 0x10000 ≤ n

/-- A character that can be written as it is. -/
def isPrintable (c : Char) : Bool :=
  let n := c.toNat
  n = 0x0A || (0x20 ≤ n && n ≤ 0x7E) || (0xA0 ≤ n && n ≤ 0xD7FF) ||
    (0xE000 ≤ n && n ≤ 0xFFFD && n ≠ 0xFEFF)

/-- A character of the names of anchors, directives and tags. -/
def isNameCharacter (c : Char) : Bool := c.isAlphanum || c == '_' || c == '-'

/-- The mark that may stand at the start of a file and means nothing. -/
def orderMark : Char := Char.ofNat 0xFEFF

end ArithCompiler.Config.Yaml
