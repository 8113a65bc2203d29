import ArithCompiler.Location
import ArithCompiler.Tree.Operator

/-!
# Expression trees

A tree may have holes: places where an operand is still expected. A finished
program has none. Trees are shown as S-expressions.
-/

namespace ArithCompiler

/-- A statement or a part of one (`SPEC_FULL.md` §3, Expression). Every node but a hole has
a place: that of its number, name, operator, `=`, `return` or opening parenthesis. -/
inductive Expr where
  | hole
  | literal (loc : Location) (digits : String)
  | var (loc : Location) (name : String)
  | binary (loc : Location) (left : Expr) (op : OpCode) (right : Expr)
  | assign (loc : Location) (name : String) (value : Expr)
  | ret (loc : Location) (value : Expr)
  | group (loc : Location) (inner : Expr)
deriving DecidableEq, Repr, Inhabited

/-- The statements of a program, in order. -/
abbrev Program := List Expr

namespace Expr

def loc? : Expr → Option Location
  | .hole => none
  | .literal l _ | .var l _ | .binary l _ _ _ | .assign l _ _ | .ret l _ | .group l _ => some l

/-- A tree without holes. -/
def isComplete : Expr → Bool
  | .hole => false
  | .literal _ _ | .var _ _ => true
  | .binary _ left _ right => left.isComplete && right.isComplete
  | .assign _ _ value => value.isComplete
  | .ret _ value => value.isComplete
  | .group _ inner => inner.isComplete

/-- The tree as an S-expression; a hole is an underscore. -/
def render : Expr → String
  | .hole => "_"
  | .literal _ digits => digits
  | .var _ name => name
  | .binary _ left op right => "(" ++ op.render ++ " " ++ left.render ++ " " ++ right.render ++ ")"
  | .assign _ name value => "(= " ++ name ++ " " ++ value.render ++ ")"
  | .ret _ value => "(return " ++ value.render ++ ")"
  | .group _ inner => "(group " ++ inner.render ++ ")"

/-- Whether the node itself is a return. -/
def isReturn : Expr → Bool
  | .ret _ _ => true
  | _ => false

end Expr

/-- The program as one S-expression. -/
def Program.render (p : Program) : String :=
  "(program" ++ String.join (p.map fun s => " " ++ s.render) ++ ")"

end ArithCompiler
