import ArithCompiler.Tree.Expr

/-!
# Trees under construction

A statement, or the inside of a parenthesis, is built from left to right. What
is open at any time lies on the right spine of the tree, so a draft keeps that
spine, innermost node first, and the operand at its end once it is there. A
`return` or an assignment can only be the outermost node of the spine; below it
the ranks of binary nodes increase, so a spine is short. It is the cursor that
`SPEC_FULL.md` §9 asks for.

An incoming operator takes from the end of the spine what binds at least as
tight as itself and becomes the node above it (`Draft.operator?`).
-/

namespace ArithCompiler

/-- A node of the right spine, without its last operand. -/
inductive Frame where
  | binary (loc : Location) (left : Expr) (op : Operator)
  | assign (loc : Location) (name : String)
  | ret (loc : Location)
deriving DecidableEq, Repr

namespace Frame

/-- The node with its last operand. -/
def fill : Frame → Expr → Expr
  | .binary loc left op, e => .binary loc left (.known op) e
  | .assign loc name, e => .assign loc name e
  | .ret loc, e => .ret loc e

/-- Whether an incoming operator goes below this node rather than above it. -/
def keepsAbove : Frame → Operator → Bool
  | .binary _ _ op, incoming => op.rank < incoming.rank
  | .assign _ _, _ => true
  | .ret _, _ => true

end Frame

structure Draft where
  /-- The nodes of the right spine, innermost first. -/
  spine : List Frame
  /-- The operand at the end of the spine; `none` while it is expected. -/
  operand : Option Expr
deriving DecidableEq, Repr

namespace Draft

def empty : Draft := ⟨[], none⟩

/-- The tree with this spine above `e`. -/
def plug (spine : List Frame) (e : Expr) : Expr := spine.foldl (fun e f => f.fill e) e

/-- The tree built so far. -/
def root (d : Draft) : Expr := plug d.spine (d.operand.getD .hole)

def isEmpty (d : Draft) : Bool := d.spine.isEmpty && d.operand.isNone

/-- Nothing more is expected. -/
def isComplete (d : Draft) : Bool := d.operand.isSome

/-! ### Steps -/

/-- Puts a complete operand where one is expected (`SPEC_FULL.md` §4.2). -/
def attach? (d : Draft) (e : Expr) : Option Draft :=
  match d.operand with
  | some _ => none
  | none => some { d with operand := some e }

/-- Takes off the end of the spine all nodes that `op` goes above. -/
def climb (op : Operator) : List Frame → Expr → List Frame × Expr
  | [], e => ([], e)
  | f :: spine, e => if f.keepsAbove op then (f :: spine, e) else climb op spine (f.fill e)

/-- Adds an operator, whose right operand is then expected, by the rule of precedence in
`SPEC_FULL.md` §4.1. There must be a left operand. -/
def operator? (d : Draft) (loc : Location) (op : Operator) : Option Draft :=
  match d.operand with
  | none => none
  | some e =>
    let (spine, left) := climb op d.spine e
    some ⟨.binary loc left op :: spine, none⟩

/-- Turns a bare variable into an assignment to it. -/
def assign? (d : Draft) (loc : Location) : Option Draft :=
  match d with
  | ⟨[], some (.var _ name)⟩ => some ⟨[.assign loc name], none⟩
  | _ => none

/-- A `return`, in place of all that was there. -/
def startReturn (loc : Location) : Draft := ⟨[.ret loc], none⟩

end Draft

end ArithCompiler
