/-!
# Shell scripts

A script is a list of pipelines, each of which runs always or by the status of the
one before it. The stages of a pipeline are commands: a list of words, or one of
the forms that hold scripts themselves. Words are made of pieces, quoted or not.
-/

namespace ArithCompiler.Process

/-- When a pipeline runs, by the status of the one before it. -/
inductive Link where
  | always
  | onSuccess
  | onFailure
deriving DecidableEq, Repr

mutual

/-- A part of a word. -/
inductive Piece where
  | literal (text : List Char) (isQuoted : Bool)
  | parameter (name : String) (use : Use) (isQuoted : Bool)
  /-- What a script writes. -/
  | output (body : List Clause) (isQuoted : Bool)
  /-- The value of an arithmetic expression. -/
  | number (expression : List Piece) (isQuoted : Bool)

/-- What is asked of a parameter. In some forms an empty value counts as none. -/
inductive Use where
  | value
  | length
  /-- The value, or else a word. -/
  | orElse (emptyToo : Bool) (word : List Piece)
  /-- The value, or else a word, which becomes the value. -/
  | orAssign (emptyToo : Bool) (word : List Piece)
  /-- A word if there is a value. -/
  | ifSet (emptyToo : Bool) (word : List Piece)
  /-- The value; without one the script ends with a message. -/
  | orFail (emptyToo : Bool) (word : List Piece)
  | withoutStart (longest : Bool) (pattern : List Piece)
  | withoutEnd (longest : Bool) (pattern : List Piece)

/-- Output that goes elsewhere, or input that comes from there. -/
inductive Redirection where
  /-- To a file, in place of what it holds or after it. -/
  | toFile (stream : Nat) (appending : Bool) (target : List Piece)
  /-- Where another stream goes. -/
  | toStream (stream other : Nat)
  | fromFile (target : List Piece)
  | fromText (text : List Piece)

inductive Command where
  | simple (line : Nat) (assigned : List (String × List Piece)) (words : List (List Piece))
      (redirections : List Redirection)
  | group (body : List Clause) (redirections : List Redirection)
  | subshell (body : List Clause) (redirections : List Redirection)
  /-- Scripts behind conditions, of which the first that holds counts. -/
  | branch (arms : List (List Clause × List Clause)) (otherwise : List Clause)
      (redirections : List Redirection)
  | loop (isUntil : Bool) (condition body : List Clause) (redirections : List Redirection)
  /-- A script for each of some words; without words, for each argument. -/
  | forEach (line : Nat) (name : String) (words : Option (List (List Piece))) (body : List Clause)
      (redirections : List Redirection)
  /-- Scripts behind patterns, of which the first that fits a word counts. -/
  | select (subject : List Piece) (arms : List (List (List Piece) × List Clause))
      (redirections : List Redirection)
  | function (name : String) (body : Command)

/-- A pipeline. -/
inductive Clause where
  | mk (link : Link) (isNegated : Bool) (stages : List Command)

end

abbrev Word := List Piece

abbrev Script := List Clause

/-! ### Characters -/

def isBlank (c : Char) : Bool := c == ' ' || c == '\t'

def isNameStart (c : Char) : Bool := c.isAlpha || c == '_'

def isNameChar (c : Char) : Bool := isNameStart c || c.isDigit

def isName (cs : List Char) : Bool := cs.head?.any isNameStart && cs.all isNameChar

/-- A character that ends a word. -/
def endsWord (c : Char) : Bool := c ∈ [' ', '\t', '\n', ';', '&', '|', '<', '>', '(', ')']

end ArithCompiler.Process
