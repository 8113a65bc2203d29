import ArithCompiler.Location
import ArithCompiler.Text.Quoted

/-!
# Lexemes

The words of the source language: numbers, identifiers, the two keywords,
parentheses, and every other character as a one-character operator. Each kind
has a number; a number that no kind has is kept as `other`.
-/

namespace ArithCompiler

/-- What a lexeme is. -/
inductive LexemeKind where
  | eof
  | number
  | ident
  | operator
  | lparen
  | rparen
  | keyword
  | other (code : Int)
deriving DecidableEq, Repr

namespace LexemeKind

def code : LexemeKind → Int
  | .eof => 0
  | .number => 1
  | .ident => 2
  | .operator => 3
  | .lparen => 4
  | .rparen => 5
  | .keyword => 6
  | .other n => n

def ofCode (n : Int) : LexemeKind :=
  if n = 0 then .eof
  else if n = 1 then .number
  else if n = 2 then .ident
  else if n = 3 then .operator
  else if n = 4 then .lparen
  else if n = 5 then .rparen
  else if n = 6 then .keyword
  else .other n

theorem code_ofCode (n : Int) : (ofCode n).code = n := by
  grind [ofCode, code]

def name : LexemeKind → String
  | .eof => "EOF"
  | .number => "NUMBER"
  | .ident => "IDENT"
  | .operator => "OPERATOR"
  | .lparen => "LPAREN"
  | .rparen => "RPAREN"
  | .keyword => "KEYWORD"
  | .other _ => "UNKNOWN"

end LexemeKind

/-- A lexeme: its kind, its text and the place of its first character (`SPEC_FULL.md` §3,
Token). -/
structure Lexeme where
  kind : LexemeKind
  text : String
  loc : Location
deriving DecidableEq, Repr

namespace Lexeme

/-- The end of input, at no place. -/
def endOfInput : Lexeme := ⟨.eof, "", .nowhere⟩

/-- The kind and, unless it is empty, the quoted text, in angle brackets. -/
def render (l : Lexeme) : String :=
  if l.text = "" then "<" ++ l.kind.name ++ ">"
  else "<" ++ l.kind.name ++ " " ++ Text.quote l.text ++ ">"

def isKeyword (l : Lexeme) (word : String) : Bool := l.kind == .keyword && l.text == word

def isOperator (l : Lexeme) (text : String) : Bool := l.kind == .operator && l.text == text

end Lexeme

end ArithCompiler
