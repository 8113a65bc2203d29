import ArithCompiler.Tree.BuildError
import ArithCompiler.Tree.Draft

/-!
# Building a program

A builder takes lexemes one at a time and never looks ahead (`SPEC_FULL.md` §4.1). It keeps the
statements finished so far, the draft of the current one, and a stack of the
drafts in which parentheses were opened. The first error is kept: a failed
builder answers every further step with it.

Steps that succeed report events. Two of them are warnings: an `=` that has no
bare variable before it is dropped, and a `return` drops what stands before it
in the statement.
-/

namespace ArithCompiler

/-- What a step reports. -/
inductive BuildEvent where
  | droppedAssign (loc : Location) (current : Expr)
  | discarded (loc : Location) (dropped : Expr)
  | consumed (lexeme : Lexeme) (current : Draft) (depth : Nat)
deriving DecidableEq, Repr

namespace BuildEvent

def isWarning : BuildEvent → Bool
  | .droppedAssign _ _ | .discarded _ _ => true
  | .consumed _ _ _ => false

end BuildEvent

/-- An open parenthesis: its place, and the draft that its group will go into. -/
structure OpenGroup where
  loc : Location
  parent : Draft
deriving DecidableEq, Repr

structure Builder where
  /-- The finished statements, in order. -/
  statements : List Expr
  current : Draft
  /-- The open parentheses, innermost first. -/
  groups : List OpenGroup
  /-- The first error. -/
  failure : Option BuildError
deriving DecidableEq, Repr

namespace Builder

def new : Builder := ⟨[], .empty, [], none⟩

/-! ### One lexeme -/

/-- Ends the current statement at lexeme `l`. An empty statement is skipped
(`SPEC_FULL.md` §17). -/
def finishStatement (b : Builder) (l : Lexeme) : Except BuildError Builder :=
  match b.current.operand with
  | some _ =>
    .ok { b with statements := b.statements ++ [b.current.root], current := .empty }
  | none =>
    if b.current.isEmpty then .ok b
    else .error ⟨.incompleteStatement b.current.root, l⟩

/-- A number or name. -/
def operand (b : Builder) (l : Lexeme) (e : Expr) : Except BuildError Builder :=
  match b.current.attach? e with
  | some d => .ok { b with current := d }
  | none => .error ⟨.operandAfter b.current.root, l⟩

/-- One of the operators with a rank, or none at all. -/
def arithmetic (b : Builder) (l : Lexeme) : Except BuildError Builder :=
  match Operator.ofSymbol? l.text with
  | none => .error ⟨.unknownOperator, l⟩
  | some op =>
    match b.current.operator? l.loc op with
    | some d => .ok { b with current := d }
    | none => .error ⟨.noLeftOperand, l⟩

/-- A closing parenthesis makes the current draft an operand of its parent. -/
def closeGroup (b : Builder) (l : Lexeme) : Except BuildError Builder :=
  match b.groups with
  | [] => .error ⟨.unmatchedClose, l⟩
  | g :: groups =>
    if b.current.isComplete then
      match g.parent.attach? (.group g.loc b.current.root) with
      | some d => .ok { b with current := d, groups := groups }
      | none => .error ⟨.groupAfter g.loc g.parent.root, l⟩
    else .error ⟨.incompleteGroup g.loc b.current.root, l⟩

/-- A successful step and the warnings it gave. -/
abbrev Step := Except BuildError (Builder × List BuildEvent)

/-- A step that gives no warning. -/
def quiet (r : Except BuildError Builder) : Step := r.map fun b => (b, [])

def operator (b : Builder) (l : Lexeme) : Step :=
  if l.text = ";" then
    match b.groups with
    | g :: _ => .error ⟨.unclosedGroup g.loc, l⟩
    | [] => quiet (b.finishStatement l)
  else if l.text = "=" then
    match b.current.assign? l.loc with
    | some d => .ok ({ b with current := d }, [])
    | none => .ok (b, [.droppedAssign l.loc b.current.root])
  else quiet (b.arithmetic l)

def keyword (b : Builder) (l : Lexeme) : Step :=
  if l.text = "return" then
    match b.groups with
    | _ :: _ => .error ⟨.returnInGroup, l⟩
    | [] =>
      .ok ({ b with current := .startReturn l.loc },
        if b.current.isEmpty then [] else [.discarded l.loc b.current.root])
  else if l.text = "if" then .error ⟨.conditional, l⟩
  else .error ⟨.unknownKeyword, l⟩

/-- The effect of one lexeme on a builder that has not failed. -/
def step (b : Builder) (l : Lexeme) : Step :=
  match l.kind with
  | .number => quiet (b.operand l (.literal l.loc l.text))
  | .ident => quiet (b.operand l (.var l.loc l.text))
  | .operator => b.operator l
  | .lparen => .ok ({ b with current := .empty, groups := ⟨l.loc, b.current⟩ :: b.groups }, [])
  | .rparen => quiet (b.closeGroup l)
  | .keyword => b.keyword l
  | .eof => .error ⟨.endAsLexeme, l⟩
  | .other code => .error ⟨.unknownLexeme code, l⟩

/-- Takes one lexeme. A step that succeeds reports its warnings and then that the
lexeme was consumed. -/
def push (b : Builder) (l : Lexeme) : Except BuildError (List BuildEvent) × Builder :=
  match b.failure with
  | some e => (.error e, b)
  | none =>
    match b.step l with
    | .ok (b', events) =>
      (.ok (events ++ [.consumed l b'.current b'.groups.length]), b')
    | .error e => (.error e, { b with failure := some e })

/-! ### The end of input -/

/-- Ends the last statement and gives the program built so far. Building can go on
afterwards, and the program then grows. -/
def finish (b : Builder) : Except BuildError Program × Builder :=
  match b.failure with
  | some e => (.error e, b)
  | none =>
    let ended : Except BuildError Builder :=
      match b.groups with
      | g :: _ => .error ⟨.unclosedGroup g.loc, .endOfInput⟩
      | [] => b.finishStatement .endOfInput
    match ended with
    | .ok b' => (.ok b'.statements, b')
    | .error e => (.error e, { b with failure := some e })

end Builder

/-- The events of a run over some lexemes, and the builder after the last of them
or the first error. -/
def Builder.pushAll (b : Builder) : List Lexeme → List BuildEvent × Except BuildError Builder
  | [] => ([], .ok b)
  | l :: ls =>
    match b.push l with
    | (.error e, _) => ([], .error e)
    | (.ok events, b') =>
      let (rest, r) := b'.pushAll ls
      (events ++ rest, r)

/-- Builds a program from all its lexemes. -/
def build (ls : List Lexeme) : List BuildEvent × Except BuildError Program :=
  let (events, r) := Builder.new.pushAll ls
  (events, r.bind fun b => b.finish.1)

end ArithCompiler
