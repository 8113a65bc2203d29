/-!
# Places in a text
-/

namespace ArithCompiler

/-- A line and a column, both counted from one. The place `0:0` is used where
nothing was read. -/
structure Location where
  line : Int
  column : Int
deriving DecidableEq, Repr, Inhabited

namespace Location

/-- The place of no character. -/
def nowhere : Location := ⟨0, 0⟩

/-- The place of the first character. -/
def start : Location := ⟨1, 1⟩

/-- The place after a character: a newline starts a line. -/
def after (l : Location) (c : Char) : Location :=
  if c = '\n' then ⟨l.line + 1, 1⟩ else ⟨l.line, l.column + 1⟩

/-- `line:column`, in decimal. -/
def render (l : Location) : String := toString l.line ++ ":" ++ toString l.column

end Location

end ArithCompiler
