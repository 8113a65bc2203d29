import ArithCompiler.Code.Instr

/-!
# Functions and their text

A function is printed in parts: a header line, one line for each instruction, a
footer line. `printTo` prints to a sink that takes a limited number of parts.
-/

namespace ArithCompiler

structure Function where
  name : String
  code : List Instr
  /-- The number of registers that the code defines. -/
  registers : Int
deriving DecidableEq, Repr

namespace Function

/-- The parts of a function's text. -/
inductive Part where
  | header
  | instruction
  | footer
deriving DecidableEq, Repr

/-- The activity that fails when a part is not taken. -/
def Part.activity : Part → String
  | .header => "writing function header"
  | .instruction => "writing instruction"
  | .footer => "writing function footer"

def headerLine (name : String) : String := "define i32 @" ++ name ++ "() \x7b\n"

def instrLine (style : PointerStyle) (i : Instr) : String := "  " ++ i.render style ++ "\n"

def footerLine : String := "\x7d\n"

/-- The text in the parts in which it is written. -/
def parts (style : PointerStyle) (f : Function) : List (Part × String) :=
  (.header, headerLine f.name) ::
    f.code.map (fun i => (.instruction, instrLine style i)) ++ [(.footer, footerLine)]

/-- The whole text. -/
def render (style : PointerStyle) (f : Function) : String :=
  String.join ((f.parts style).map (·.2))

/-- Writes parts to a sink that takes `capacity` of them: what it took, and the
part that it refused. -/
def writeParts : Nat → List (Part × String) → String × Option Part
  | _, [] => ("", none)
  | 0, (p, _) :: _ => ("", some p)
  | capacity + 1, (_, s) :: rest =>
    let (written, refused) := writeParts capacity rest
    (s ++ written, refused)

def printTo (capacity : Nat) (style : PointerStyle) (f : Function) : String × Option Part :=
  writeParts capacity (f.parts style)

end Function

end ArithCompiler
