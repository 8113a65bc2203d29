import ArithCompiler.Text.Quoted
import ArithCompiler.Tree.Expr

/-!
# Aligned dumps

A dump shows every field of every node on a line of its own, four columns deeper
than the node. Fields are aligned in blocks: a block ends after a field whose
value takes several lines, and the values of a block start one column after its
longest field name. Nodes nested too deep are cut off. It is the dump `pretty` of
`SPEC_FULL.md` §13.
-/

namespace ArithCompiler.Dump

/-- The lines of a value, at least one. -/
abbrev Lines := List String

/-- Adds a comma to the last line. -/
def comma : Lines → Lines
  | [] => []
  | [l] => [l ++ ","]
  | l :: ls => l :: comma ls

def indent (ls : Lines) : Lines := ls.map ("    " ++ ·)

/-! ### Fields -/

abbrev Field := String × Lines

/-- Splits fields into blocks: a value of several lines is the last of its block. -/
def blocks : List Field → List (List Field)
  | [] => []
  | f :: fs =>
    if f.2.length > 1 then [f] :: blocks fs
    else
      match blocks fs with
      | [] => [[f]]
      | b :: bs => (f :: b) :: bs

/-- The column at which the values of a block start. -/
def valueColumn (b : List Field) : Nat := (b.map fun f => f.1.length + 2).foldl max 0

/-- A field whose value starts at a column. -/
def fieldLines (column : Nat) (f : Field) : Lines :=
  match f.2 with
  | [] => []
  | first :: rest =>
    comma ((f.1 ++ ":" ++ "".pushn ' ' (column - (f.1.length + 1)) ++ first) :: rest)

/-- A node of some type with its fields. -/
def node (type : String) (fields : List Field) : Lines :=
  ("&ast." ++ type ++ "\x7b") ::
    (blocks fields).flatMap (fun b => indent (b.flatMap (fieldLines (valueColumn b)))) ++ ["\x7d"]

/-- A node all of whose fields are empty. -/
def bare (type : String) : Lines := ["&ast." ++ type ++ "\x7b\x7d"]

def location (l : Location) : Lines :=
  if l = .nowhere then ["lexer.Location\x7b\x7d"]
  else
    ["lexer.Location\x7bLine:" ++ toString l.line ++ ", Col:" ++ toString l.column ++ "\x7d"]

def text (s : String) : Lines := [Text.quote s]

/-! ### Trees -/

/-- What stands for a node nested too deep. -/
def tooDeep : Lines := ["&!%v(DEPTH EXCEEDED)"]

/-- The dump of a tree with `room` levels of nodes left below it. -/
def tree : Nat → Expr → Lines
  | _, .hole => ["nil"]
  | 0, _ => tooDeep
  | _ + 1, .literal l digits =>
    if l = .nowhere ∧ digits = "" then bare "Literal"
    else node "Literal" [("Loc", location l), ("Value", text digits)]
  | _ + 1, .var l name =>
    if l = .nowhere ∧ name = "" then bare "Variable"
    else node "Variable" [("Loc", location l), ("Name", text name)]
  | room + 1, .binary l left op right =>
    if l = .nowhere ∧ left = .hole ∧ op = .known .add ∧ right = .hole then
      bare "BinaryOperation"
    else
      node "BinaryOperation" [("Loc", location l), ("Left", tree room left),
        ("Operator", [toString op.toInt]), ("Right", tree room right)]
  | room + 1, .assign l name value =>
    if l = .nowhere ∧ name = "" ∧ value = .hole then bare "Assignment"
    else
      node "Assignment" [("Loc", location l), ("Name", text name), ("Value", tree room value)]
  | room + 1, .ret l value =>
    if l = .nowhere ∧ value = .hole then bare "Return"
    else node "Return" [("Loc", location l), ("Value", tree room value)]
  | room + 1, .group l inner =>
    if l = .nowhere ∧ inner = .hole then bare "Group"
    else node "Group" [("Loc", location l), ("Inner", tree room inner)]

/-- The number of levels of nodes that are shown. -/
def depthLimit : Nat := 8

/-- The dump of a program. -/
def program (p : Program) : Lines :=
  if p.isEmpty then bare "Program"
  else
    ["&ast.Program\x7b"] ++
      indent (["Statements: \x7b"] ++
        indent (p.flatMap fun s => comma (tree depthLimit s)) ++ ["\x7d,"]) ++ ["\x7d"]

end ArithCompiler.Dump
