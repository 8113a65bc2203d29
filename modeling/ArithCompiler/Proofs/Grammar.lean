import ArithCompiler.Lexeme
import ArithCompiler.Tree.Expr

/-!
# The grammar

Derivations of the source language, from which their lexemes (`yield`) and their
trees are read off. The grammar is that of `SPEC_FULL.md` §6 with empty statements (§17); an
assignment stands only where a statement or a parenthesis begins:

    statements := [statement] (';' [statement])*
    statement  := 'return' chain | clause
    clause     := IDENT '=' chain | chain
    chain      := atom (operator atom)*
    atom       := NUMBER | IDENT | '(' clause ')'

A chain is read as a sum of products: `*` and `/` join the factors of each product
from the left, and then `+` and `-` join the products from the left (`Chain.tree`).
-/

namespace ArithCompiler

/-- `+` and `-` join products to a sum, `*` and `/` join factors to a product. -/
def Operator.isAdditive : Operator → Bool
  | .add | .sub => true
  | .mul | .div => false

namespace Grammar

/-! ### Words -/

abbrev Number := { l : Lexeme // l.kind = .number }

abbrev Name := { l : Lexeme // l.kind = .ident }

abbrev Opening := { l : Lexeme // l.kind = .lparen }

abbrev Closing := { l : Lexeme // l.kind = .rparen }

abbrev Equals := { l : Lexeme // l.isOperator "=" = true }

abbrev Semicolon := { l : Lexeme // l.isOperator ";" = true }

abbrev Return := { l : Lexeme // l.isKeyword "return" = true }

/-- One of the four operators, as a lexeme. -/
structure BinaryOp where
  lexeme : Lexeme
  op : Operator
  spelled : lexeme.isOperator op.symbol = true

def BinaryOp.node (o : BinaryOp) (left right : Expr) : Expr :=
  .binary o.lexeme.loc left (.known o.op) right

/-- An operator that joins products to a sum. -/
abbrev Additive := { o : BinaryOp // o.op.isAdditive = true }

/-! ### Derivations -/

mutual

inductive Atom where
  | number (n : Number)
  | name (n : Name)
  | group (opened : Opening) (inner : Clause) (closed : Closing)

inductive Clause where
  | plain (value : Chain)
  | assign (name : Name) (equals : Equals) (value : Chain)

inductive Chain where
  | single (x : Atom)
  | snoc (c : Chain) (o : BinaryOp) (x : Atom)

end

inductive Statement where
  | clause (c : Clause)
  | ret (word : Return) (value : Chain)

/-- Statements between semicolons, each of which may be missing. -/
inductive Statements where
  | first (s : Option Statement)
  | more (before : Statements) (semicolon : Semicolon) (s : Option Statement)

/-! ### Lexemes -/

mutual

def Atom.yield : Atom → List Lexeme
  | .number n => [n.val]
  | .name n => [n.val]
  | .group opened inner closed => opened.val :: (inner.yield ++ [closed.val])

def Clause.yield : Clause → List Lexeme
  | .plain value => value.yield
  | .assign name equals value => name.val :: equals.val :: value.yield

def Chain.yield : Chain → List Lexeme
  | .single x => x.yield
  | .snoc c o x => c.yield ++ o.lexeme :: x.yield

end

def Statement.yield : Statement → List Lexeme
  | .clause c => c.yield
  | .ret word value => word.val :: value.yield

def Statements.yield : Statements → List Lexeme
  | .first s => s.elim [] Statement.yield
  | .more before semicolon s => before.yield ++ semicolon.val :: s.elim [] Statement.yield

/-! ### Trees -/

/-- A sum: what stands before its last product, with the operator between the two,
and that product. -/
structure Sum where
  before : Option (Expr × Additive)
  last : Expr

namespace Sum

def tree : Sum → Expr
  | ⟨none, e⟩ => e
  | ⟨some (left, o), e⟩ => o.val.node left e

/-- Goes on with an operator and an operand: with a new product, or with another
factor of the last one. -/
def add (s : Sum) (o : BinaryOp) (e : Expr) : Sum :=
  if h : o.op.isAdditive = true then ⟨some (s.tree, ⟨o, h⟩), e⟩ else ⟨s.before, o.node s.last e⟩

end Sum

mutual

def Atom.tree : Atom → Expr
  | .number n => .literal n.val.loc n.val.text
  | .name n => .var n.val.loc n.val.text
  | .group opened inner _ => .group opened.val.loc inner.tree

def Clause.tree : Clause → Expr
  | .plain value => value.sum.tree
  | .assign name equals value => .assign equals.val.loc name.val.text value.sum.tree

def Chain.sum : Chain → Sum
  | .single x => ⟨none, x.tree⟩
  | .snoc c o x => c.sum.add o x.tree

end

def Chain.tree (c : Chain) : Expr := c.sum.tree

def Statement.tree : Statement → Expr
  | .clause c => c.tree
  | .ret word value => .ret word.val.loc value.tree

/-- The trees of the statements that are not missing, in order. -/
def Statements.trees : Statements → Program
  | .first s => s.toList.map Statement.tree
  | .more before _ s => before.trees ++ s.toList.map Statement.tree

end Grammar

end ArithCompiler
