import ArithCompiler.Config.Scalar
import ArithCompiler.Config.Yaml.Cursor
import ArithCompiler.Config.Yaml.Fault

/-!
# Scalars inside lines

Plain and quoted scalars are made of words with gaps between them. A gap without a
break keeps its blanks. A gap with one break is a space; with more, the further
breaks are kept. A text in single quotes holds all characters as they are, but a
quote is doubled. A text in double quotes holds escapes.
-/

namespace ArithCompiler.Config.Yaml

/-! ### Gaps -/

/-- What stands between two words. -/
structure Gap where
  /-- Blanks in front of any break. -/
  blanks : List Char
  /-- The first break. An escaped break has no text. -/
  first : Option (List Char)
  /-- Further breaks. -/
  more : List Char

namespace Gap

def empty : Gap := ⟨[], none, []⟩

/-- The gap that an escaped break starts. -/
def escaped : Gap := ⟨[], some [], []⟩

def hasBreak (g : Gap) : Bool := g.first.isSome

/-- What a gap stands for. -/
def text (g : Gap) : List Char :=
  match g.first with
  | none => g.blanks
  | some first =>
    if first = ['\n'] then if g.more.isEmpty then [' '] else g.more else first ++ g.more

/-- Reads a gap. Behind a break no tab may stand before the column `limit`. -/
def read (start : Nat) (limit : Int) : (fuel : Nat) → Gap → Cursor → Except Fault (Gap × Cursor)
  | 0, g, c => .ok (g, c)
  | fuel + 1, g, c =>
    match c.lineEnd? with
    | some (b, next) =>
      let g := if g.hasBreak then { g with more := g.more ++ b } else ⟨[], some b, []⟩
      read start limit fuel g next
    | none =>
      match c.head? with
      | some a =>
        if !isBlank a then .ok (g, c)
        else if g.hasBreak then
          if a == '\t' && (c.column : Int) < limit then
            .error (.ofToken .tabInPlain start c.line)
          else read start limit fuel g (c.skip 1)
        else read start limit fuel { g with blanks := g.blanks ++ [a] } (c.skip 1)
      | none => .ok (g, c)

end Gap

/-! ### Plain scalars -/

/-- The characters that end a plain scalar inside brackets and braces. -/
def flowIndicators : List Char := [',', '?', '[', ']', '\x7b', '\x7d']

/-- The length of a word of a plain scalar. A colon ends it only in front of a
gap. -/
def plainWord (inFlow : Bool) : List Char → Nat
  | [] => 0
  | a :: rest =>
    if isBlank a || isBreak a then 0
    else if a == ':' && isGap rest.head? then 0
    else if inFlow && a ∈ flowIndicators then 0
    else 1 + plainWord inFlow rest

/-- A plain scalar. -/
structure Plain where
  text : List Char
  /-- Whether a break stands between it and the cursor. -/
  endsLine : Bool
  cursor : Cursor

/-- Reads the words of a plain scalar from one at the cursor on; those on further
lines start in the column `limit` or behind it. -/
def readPlain (start : Nat) (inFlow : Bool) (limit : Int) :
    (fuel : Nat) → (done : List Char) → Gap → Cursor → Except Fault Plain
  | 0, done, gap, c => .ok ⟨done, gap.hasBreak, c⟩
  | fuel + 1, done, gap, c =>
    if c.atMarker || c.head? == some '#' then .ok ⟨done, gap.hasBreak, c⟩
    else
      match plainWord inFlow c.rest with
      | 0 => .ok ⟨done, gap.hasBreak, c⟩
      | n =>
        let done := done ++ gap.text ++ c.rest.take n
        let c := c.skip n
        match Gap.read start limit (c.rest.length + 1) .empty c with
        | .error e => .error e
        | .ok (gap, c) =>
          if !inFlow && (c.column : Int) < limit then .ok ⟨done, gap.hasBreak, c⟩
          else readPlain start inFlow limit fuel done gap c

/-! ### Quoted scalars -/

/-- The characters of a word in single quotes, last first. -/
def singleWord : (fuel : Nat) → (done : List Char) → Cursor → List Char × Cursor
  | 0, done, c => (done, c)
  | fuel + 1, done, c =>
    match c.rest with
    | [] => (done, c)
    | '\x27' :: '\x27' :: _ => singleWord fuel ('\x27' :: done) (c.skip 2)
    | a :: _ =>
      if a == '\x27' || isBlank a || isBreak a then (done, c)
      else singleWord fuel (a :: done) (c.skip 1)

/-- The character of an escape of one letter. -/
def unescape? (c : Char) : Option Char :=
  match c with
  | '0' => some (Char.ofNat 0x00)
  | 'a' => some (Char.ofNat 0x07)
  | 'b' => some (Char.ofNat 0x08)
  | 't' | '\t' => some '\t'
  | 'n' => some '\n'
  | 'v' => some (Char.ofNat 0x0B)
  | 'f' => some (Char.ofNat 0x0C)
  | 'r' => some '\r'
  | 'e' => some (Char.ofNat 0x1B)
  | ' ' | '"' | '\x27' | '\\' => some c
  | 'N' => some (Char.ofNat 0x85)
  | '_' => some (Char.ofNat 0xA0)
  | 'L' => some (Char.ofNat 0x2028)
  | 'P' => some (Char.ofNat 0x2029)
  | _ => none

/-- The number of digits behind the letter of an escape by code. -/
def escapeWidth? (c : Char) : Option Nat :=
  match c with
  | 'x' => some 2
  | 'u' => some 4
  | 'U' => some 8
  | _ => none

/-- The character of an escape by code. -/
def codeEscape (ds : List Char) (width : Nat) : Except Problem Char :=
  if ds.length < width then .error .noEscapeDigits
  else
    match Scalar.inBase? 16 0 ds with
    | none => .error .noEscapeDigits
    | some n =>
      if (0xD800 ≤ n && n ≤ 0xDFFF) || n > 0x10FFFF then .error .badEscapeCode
      else .ok (Char.ofNat n)

/-- The characters of a word in double quotes, last first, and the gap that an
escaped break starts behind it. -/
def doubleWord (start : Nat) :
    (fuel : Nat) → (done : List Char) → Cursor → Except Fault (List Char × Gap × Cursor)
  | 0, done, c => .ok (done, .empty, c)
  | fuel + 1, done, c =>
    match c.rest with
    | [] => .ok (done, .empty, c)
    | '\\' :: rest =>
      match (c.skip 1).lineEnd?, rest with
      | some (_, next), _ => .ok (done, .escaped, next)
      | none, [] => .error (.ofToken .unknownEscape start c.line)
      | none, a :: digits =>
        match unescape? a, escapeWidth? a with
        | some d, _ => doubleWord start fuel (d :: done) (c.skip 2)
        | none, some width =>
          match codeEscape (digits.take width) width with
          | .ok d => doubleWord start fuel (d :: done) (c.skip (2 + width))
          | .error problem => .error (.ofToken problem start c.line)
        | none, none => .error (.ofToken .unknownEscape start c.line)
    | a :: _ =>
      if a == '"' || isBlank a || isBreak a then .ok (done, .empty, c)
      else doubleWord start fuel (a :: done) (c.skip 1)

/-- Reads a quoted scalar from behind its first quote up to behind its last. -/
def readQuoted (start : Nat) (quote : Char) :
    (fuel : Nat) → (done : List Char) → Cursor → Except Fault (List Char × Cursor)
  | 0, _, c => .error (.ofToken .endInQuotes start c.line)
  | fuel + 1, done, c =>
    if c.atMarker then .error (.ofToken .markerInQuotes start c.line)
    else if c.rest.isEmpty then .error (.ofToken .endInQuotes start c.line)
    else
      let word : Except Fault (List Char × Gap × Cursor) :=
        if quote == '\x27' then
          let (word, c) := singleWord (c.rest.length + 1) [] c
          .ok (word, .empty, c)
        else doubleWord start (c.rest.length + 1) [] c
      match word with
      | .error e => .error e
      | .ok (word, gap, c) =>
        let done := done ++ word.reverse
        if c.head? == some quote then .ok (done, c.skip 1)
        else
          match Gap.read start 0 (c.rest.length + 1) gap c with
          | .error e => .error e
          | .ok (gap, c) => readQuoted start quote fuel (done ++ gap.text) c

end ArithCompiler.Config.Yaml
