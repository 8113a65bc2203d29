import ArithCompiler.Lexeme
import ArithCompiler.Tree.Expr

/-!
# Errors of building

Every error has a cause, and the lexeme at which it showed. Causes fall into six
kinds. A message names the place and lexeme, the kind, and the detail if there
is one.
-/

namespace ArithCompiler

/-- The ways building a program can fail (`SPEC_FULL.md` §7 and §11). -/
inductive BuildErrorKind where
  | unknownOperator
  | unexpectedOperand
  | noLeftOperand
  | unsupported
  | structural
  | incomplete
deriving DecidableEq, Repr

namespace BuildErrorKind

def name : BuildErrorKind → String
  | .unknownOperator => "unknown operator"
  | .unexpectedOperand => "unexpected operand"
  | .noLeftOperand => "operator without left operand"
  | .unsupported => "unsupported construct"
  | .structural => "structural invariant violation"
  | .incomplete => "incomplete expression"

/-- Kinds are numbered from one. -/
def ofCode? (n : Int) : Option BuildErrorKind :=
  if n = 1 then some .unknownOperator
  else if n = 2 then some .unexpectedOperand
  else if n = 3 then some .noLeftOperand
  else if n = 4 then some .unsupported
  else if n = 5 then some .structural
  else if n = 6 then some .incomplete
  else none

/-- The name of the kind with this number; a number that none has is shown as such. -/
def nameOfCode (n : Int) : String :=
  match ofCode? n with
  | some k => k.name
  | none => "Kind(" ++ toString n ++ ")"

end BuildErrorKind

/-- What was wrong. -/
inductive BuildCause where
  | unknownOperator
  /-- A number or name after a complete expression. -/
  | operandAfter (before : Expr)
  /-- A group after a complete expression. -/
  | groupAfter (opened : Location) (before : Expr)
  | noLeftOperand
  | returnInGroup
  | conditional
  | unclosedGroup (opened : Location)
  | unmatchedClose
  | unknownKeyword
  | endAsLexeme
  | unknownLexeme (code : Int)
  | incompleteStatement (statement : Expr)
  | incompleteGroup (opened : Location) (inner : Expr)
deriving DecidableEq, Repr

namespace BuildCause

def kind : BuildCause → BuildErrorKind
  | .unknownOperator => .unknownOperator
  | .operandAfter _ | .groupAfter _ _ => .unexpectedOperand
  | .noLeftOperand => .noLeftOperand
  | .returnInGroup | .conditional => .unsupported
  | .unclosedGroup _ | .unmatchedClose | .unknownKeyword | .endAsLexeme | .unknownLexeme _ =>
    .structural
  | .incompleteStatement _ | .incompleteGroup _ _ => .incomplete

def detail : BuildCause → String
  | .unknownOperator | .noLeftOperand => ""
  | .operandAfter before => "after " ++ before.render
  | .groupAfter opened before =>
    "group opened at " ++ opened.render ++ " follows " ++ before.render
  | .returnInGroup => "return inside parentheses"
  | .conditional => "if statements are not implemented"
  | .unclosedGroup opened => "unclosed '(' at " ++ opened.render
  | .unmatchedClose => "unmatched ')'"
  | .unknownKeyword => "unknown keyword"
  | .endAsLexeme => "end of input pushed as a lexeme"
  | .unknownLexeme code => "unknown lexeme type " ++ toString code
  | .incompleteStatement statement => "statement " ++ statement.render
  | .incompleteGroup opened inner =>
    "group opened at " ++ opened.render ++ " is " ++ inner.render

end BuildCause

structure BuildError where
  cause : BuildCause
  lexeme : Lexeme
deriving DecidableEq, Repr

namespace BuildError

def kind (e : BuildError) : BuildErrorKind := e.cause.kind

/-- Where an error showed: the end of input, or a lexeme at its place. -/
def whereText (l : Lexeme) : String :=
  if l.kind = .eof then "end of input" else l.loc.render ++ " " ++ l.render

/-- The text of an error of a named kind. -/
def describe (kindName : String) (l : Lexeme) (detail : String) : String :=
  if detail = "" then whereText l ++ ": " ++ kindName
  else whereText l ++ ": " ++ kindName ++ ": " ++ detail

def message (e : BuildError) : String := describe e.kind.name e.lexeme e.cause.detail

end BuildError

end ArithCompiler
