import ArithCompiler.Config.Yaml.Block
import ArithCompiler.Config.Yaml.Flow
import ArithCompiler.Config.Yaml.Property

/-!
# Tokens of a settings file

A text is cut into tokens from left to right. Tables and lists in block form have
no signs of their own: they start where a line is deeper than those before it and
end where one is not. A key is known as a key only when its colon is reached, on
the same line and at most 1024 characters behind its start; the token that says
so is then put in front of it.
-/

namespace ArithCompiler.Config.Yaml

inductive Token.Kind where
  | textEnd
  | directive (d : Directive)
  | documentStart
  | documentEnd
  | blockList
  | blockTable
  | blockEnd
  | flowList
  | flowListEnd
  | flowTable
  | flowTableEnd
  /-- The dash of an item. -/
  | item
  /-- The comma between members. -/
  | separator
  | key
  | value
  | alias (name : String)
  | anchor (name : String)
  | tag (t : Tag)
  | scalar (text : String) (isPlain : Bool)
deriving DecidableEq, Repr

structure Token where
  kind : Token.Kind
  line : Nat
deriving DecidableEq, Repr

/-- A token that turns out to start a key if a colon follows. -/
structure PossibleKey where
  /-- Whether nothing else can stand in its place. -/
  required : Bool
  /-- The number of tokens before it. -/
  number : Nat
  index : Nat
  line : Nat
  column : Nat

namespace PossibleKey

/-- A key is on one line and not too long. -/
def isStale (k : PossibleKey) (c : Cursor) : Bool := k.line < c.line || k.index + 1024 < c.index

end PossibleKey

/-! ### State -/

structure Scan where
  cursor : Cursor
  /-- The tokens so far, last first. -/
  tokens : List Token
  /-- Possible keys, of the innermost brackets first and of block form last. -/
  keys : List (Option PossibleKey)
  /-- The column of the innermost block; none has less than zero. -/
  indent : Int
  outer : List Int
  /-- Whether a key may start here. -/
  keyAllowed : Bool
  ended : Bool

namespace Scan

def start (cs : List Char) : Scan := ⟨.ofChars cs, [], [none], -1, [], true, false⟩

def inFlow (s : Scan) : Bool := s.keys.length > 1

def push (s : Scan) (kind : Token.Kind) (line : Nat) : Scan :=
  { s with tokens := ⟨kind, line⟩ :: s.tokens }

/-- Puts a token behind the first `number` ones. -/
def insert (s : Scan) (number : Nat) (kind : Token.Kind) (line : Nat) : Scan :=
  { s with tokens := s.tokens.insertIdx (s.tokens.length - number) ⟨kind, line⟩ }

def possibleKey? (s : Scan) : Option PossibleKey := s.keys.headD none

def setKey (s : Scan) (k : Option PossibleKey) : Scan := { s with keys := k :: s.keys.tail }

/-- The fault of a key without a colon. -/
def missingColon (s : Scan) (k : PossibleKey) : Fault := .ofToken .noColon k.line s.cursor.line

/-- Gives up the possible key. -/
def dropKey (s : Scan) : Except Fault Scan :=
  match s.possibleKey? with
  | some k => if k.required then .error (s.missingColon k) else .ok (s.setKey none)
  | none => .ok s

/-- Notes that the next token may start a key. -/
def noteKey (s : Scan) : Except Fault Scan :=
  if s.keyAllowed then do
    let c := s.cursor
    let required := !s.inFlow && s.indent = c.column
    let s ← s.dropKey
    pure (s.setKey (some ⟨required, s.tokens.length, c.index, c.line, c.column⟩))
  else .ok s

/-! ### Indentation -/

/-- Starts a block in a deeper column, in front of all tokens from a number on. -/
def indentTo (s : Scan) (column number : Nat) (kind : Token.Kind) (line : Nat) : Scan :=
  if s.inFlow || (column : Int) ≤ s.indent then s
  else { s.insert number kind line with indent := column, outer := s.indent :: s.outer }

/-- Ends the blocks that are deeper than a column. -/
def closeBlocks (column : Int) (line : Nat) : List Int → Int → List Token → List Token × Int × List Int
  | [], indent, tokens => (tokens, indent, [])
  | o :: outer, indent, tokens =>
    if indent > column then closeBlocks column line outer o (⟨.blockEnd, line⟩ :: tokens)
    else (tokens, indent, o :: outer)

def outdentTo (s : Scan) (column : Int) : Scan :=
  if s.inFlow then s
  else
    let (tokens, indent, outer) := closeBlocks column s.cursor.line s.outer s.indent s.tokens
    { s with tokens := tokens, indent := indent, outer := outer }

/-! ### Single tokens -/

/-- A token of some characters of the present line. -/
def pushSign (s : Scan) (kind : Token.Kind) (length : Nat) : Scan :=
  { s.push kind s.cursor.line with cursor := s.cursor.skip length }

/-- Passes blanks, comments and breaks. A tab is no blank where a key may start. -/
def skipGap : (fuel : Nat) → Scan → Scan
  | 0, s => s
  | fuel + 1, s =>
    let tabs := s.inFlow || !s.keyAllowed
    let c := (s.cursor.skipWhile fun a => a == ' ' || (tabs && a == '\t')).skipComment
    match c.lineEnd? with
    | some (_, next) =>
      skipGap fuel { s with cursor := next, keyAllowed := s.keyAllowed || !s.inFlow }
    | none => { s with cursor := c }

/-- The end of the text, which counts as the start of a line. -/
def finish (s : Scan) : Except Fault Scan := do
  let c := s.cursor
  let c := if c.column = 0 then c else { c with line := c.line + 1, column := 0 }
  let s ← ({ s with cursor := c }.outdentTo (-1)).dropKey
  pure { s.push .textEnd c.line with keyAllowed := false, ended := true }

def readDirectiveToken (s : Scan) : Except Fault Scan := do
  let s ← (s.outdentTo (-1)).dropKey
  let (d, c) ← readDirective s.cursor
  pure { s.push (.directive d) s.cursor.line with cursor := c, keyAllowed := false }

def readMarker (s : Scan) (kind : Token.Kind) : Except Fault Scan := do
  let s ← (s.outdentTo (-1)).dropKey
  pure { s.pushSign kind 3 with keyAllowed := false }

def openFlow (s : Scan) (kind : Token.Kind) : Except Fault Scan := do
  let s ← s.noteKey
  pure { s.pushSign kind 1 with keys := none :: s.keys, keyAllowed := true }

def closeFlow (s : Scan) (kind : Token.Kind) : Except Fault Scan := do
  let s ← s.dropKey
  let keys := if s.inFlow then s.keys.tail else s.keys
  pure { s.pushSign kind 1 with keys := keys, keyAllowed := false }

def readSeparator (s : Scan) : Except Fault Scan := do
  let s ← s.dropKey
  pure { s.pushSign .separator 1 with keyAllowed := true }

/-- The start of a block at a sign that may stand only where a key may. -/
def beginBlock (s : Scan) (kind : Token.Kind) (problem : Problem) : Except Fault Scan :=
  let c := s.cursor
  if s.inFlow then .ok s
  else if !s.keyAllowed then .error (.ofToken problem c.line c.line)
  else .ok (s.indentTo c.column s.tokens.length kind c.line)

def readItem (s : Scan) : Except Fault Scan := do
  let s ← (← s.beginBlock .blockList .itemNotAllowed).dropKey
  pure { s.pushSign .item 1 with keyAllowed := true }

def readKey (s : Scan) : Except Fault Scan := do
  let s ← (← s.beginBlock .blockTable .keyNotAllowed).dropKey
  pure { s.pushSign .key 1 with keyAllowed := !s.inFlow }

/-- The possible key, if it is still one. -/
def freshKey? (s : Scan) : Except Fault (Option PossibleKey) :=
  match s.possibleKey? with
  | some k =>
    if k.isStale s.cursor then if k.required then .error (s.missingColon k) else .ok none
    else .ok (some k)
  | none => .ok none

/-- The colon of a value. It makes a key of what was possibly one. -/
def readValue (s : Scan) : Except Fault Scan := do
  match ← s.freshKey? with
  | some k =>
    let s := (s.insert k.number .key k.line).indentTo k.column k.number .blockTable k.line
    pure { (s.setKey none).pushSign .value 1 with keyAllowed := false }
  | none =>
    let s ← s.beginBlock .blockTable .valueNotAllowed
    pure { (s.setKey none).pushSign .value 1 with keyAllowed := !s.inFlow }

def readName (s : Scan) (kind : String → Token.Kind) : Except Fault Scan := do
  let s ← s.noteKey
  let (name, c) ← readAnchor s.cursor
  pure { s.push (kind name) s.cursor.line with cursor := c, keyAllowed := false }

def readTagToken (s : Scan) : Except Fault Scan := do
  let s ← s.noteKey
  let (tag, c) ← readTag s.cursor
  pure { s.push (.tag tag) s.cursor.line with cursor := c, keyAllowed := false }

def readBlockToken (s : Scan) (isFolded : Bool) : Except Fault Scan := do
  let s ← s.dropKey
  let (text, c) ← readBlock isFolded s.indent (s.cursor.skip 1)
  pure { s.push (.scalar (String.ofList text) false) s.cursor.line with cursor := c, keyAllowed := true }

def readQuotedToken (s : Scan) (quote : Char) : Except Fault Scan := do
  let s ← s.noteKey
  let line := s.cursor.line
  let (text, c) ← readQuoted line quote (s.cursor.rest.length + 1) [] (s.cursor.skip 1)
  pure { s.push (.scalar (String.ofList text) false) line with cursor := c, keyAllowed := false }

def readPlainToken (s : Scan) : Except Fault Scan := do
  let s ← s.noteKey
  let c := s.cursor
  let p ← readPlain c.line s.inFlow (s.indent + 1) (c.rest.length + 1) [] .empty c
  pure { s.push (.scalar (String.ofList p.text) true) c.line with
    cursor := p.cursor, keyAllowed := p.endsLine }

/-! ### All tokens -/

/-- Characters that start no plain scalar. -/
def notPlain : List Char :=
  ['-', '?', ':', ',', '[', ']', '\x7b', '\x7d', '#', '&', '*', '!', '|', '>', '\x27', '"', '%', '@',
    '\x60']

/-- Whether a plain scalar starts with a character, in front of another. A sign is
a character of a scalar if no gap follows it. -/
def startsPlain (inFlow : Bool) (a : Char) (next : Option Char) : Bool :=
  !(isBlank a || a ∈ notPlain) || (a == '-' && !next.any isBlank) ||
    (!inFlow && (a == '?' || a == ':') && !isGap next)

/-- Reads the next token, with those that go with it. -/
def step (s : Scan) : Except Fault Scan :=
  let s := s.skipGap (s.cursor.rest.length + 1)
  let s := s.outdentTo s.cursor.column
  let c := s.cursor
  match c.rest with
  | [] => s.finish
  | a :: rest =>
    let sign := s.inFlow || isGap rest.head?
    if c.column = 0 && a == '%' then s.readDirectiveToken
    else if c.atStartMarker then s.readMarker .documentStart
    else if c.atEndMarker then s.readMarker .documentEnd
    else if a == '[' then s.openFlow .flowList
    else if a == '\x7b' then s.openFlow .flowTable
    else if a == ']' then s.closeFlow .flowListEnd
    else if a == '\x7d' then s.closeFlow .flowTableEnd
    else if a == ',' then s.readSeparator
    else if a == '-' && isGap rest.head? then s.readItem
    else if a == '?' && sign then s.readKey
    else if a == ':' && sign then s.readValue
    else if a == '*' then s.readName .alias
    else if a == '&' then s.readName .anchor
    else if a == '!' then s.readTagToken
    else if a == '|' && !s.inFlow then s.readBlockToken false
    else if a == '>' && !s.inFlow then s.readBlockToken true
    else if a == '\x27' || a == '"' then s.readQuotedToken a
    else if startsPlain s.inFlow a rest.head? then s.readPlainToken
    else .error (.ofToken .noToken c.line c.line)

/-- The number of tokens that no later colon can change. -/
def settled (s : Scan) : Nat :=
  s.keys.foldl (fun n k =>
    match k with
    | some k => if k.isStale s.cursor && !k.required then n else min n k.number
    | none => n) s.tokens.length

/-- The fault of a place where a key has to be and is none. -/
def staleFault? (s : Scan) : Option Fault :=
  s.keys.findSome? fun k => k.bind fun k =>
    if k.required && k.isStale s.cursor then some (s.missingColon k) else none

/-- Reads tokens up to the end of the text or to a fault, in front of which only
settled tokens count. -/
def run : (fuel : Nat) → Scan → List Token × Option Fault
  | 0, s => (s.tokens.reverse, none)
  | fuel + 1, s =>
    let stopAt (e : Fault) : List Token × Option Fault := (s.tokens.reverse.take s.settled, some e)
    match s.staleFault? with
    | some e => stopAt e
    | none =>
      match s.step with
      | .error e => stopAt e
      | .ok next => if next.ended then (next.tokens.reverse, none) else run fuel next

end Scan

/-- The tokens of a text, and the fault that ends them if there is one. -/
def scan (cs : List Char) : List Token × Option Fault :=
  if cs.all isAllowed then (Scan.start cs).run (cs.length + 2)
  else ([], some (.form 0 .controlCharacter))

end ArithCompiler.Config.Yaml
