import ArithCompiler.Config.Yaml.Style
import ArithCompiler.Text.Base64
import ArithCompiler.Text.Letter
import ArithCompiler.Text.Quoted

/-!
# Printing settings

Settings are printed in block form: each entry of a table on a line of its own,
two columns deeper than the table it is in; each item of a list behind a dash,
which stands in the column of the list's key. Long texts are folded at a space
once a line has passed its width.
-/

namespace ArithCompiler.Config.Yaml

/-! ### The pen -/

/-- Where writing stands. -/
structure Pen where
  /-- What was written, last character first. -/
  out : List Char
  column : Nat
  /-- Whether a blank has just been written. -/
  blank : Bool
  /-- Whether the line holds nothing but indentation and signs. -/
  fresh : Bool

namespace Pen

def start : Pen := ⟨[], 0, true, true⟩

def put (p : Pen) (c : Char) : Pen := { p with out := c :: p.out, column := p.column + 1 }

def newline (p : Pen) : Pen := { p with out := '\n' :: p.out, column := 0 }

/-- A character that ends a line. -/
def putBreak (p : Pen) (c : Char) : Pen := { p with out := c :: p.out, column := 0 }

def puts (p : Pen) (s : String) : Pen := s.toList.foldl put p

/-- Writes blanks up to a column. -/
def padTo (p : Pen) (column : Nat) : Pen :=
  (List.replicate (column - p.column) ' ').foldl put p

/-- Goes to the start of an indented line, which may be the present one. -/
def indentTo (p : Pen) (indent : Nat) : Pen :=
  let p := if !p.fresh || p.column > indent || (p.column = indent && !p.blank) then p.newline else p
  { p.padTo indent with blank := true, fresh := true }

/-- A mark with a blank before it. -/
def mark (p : Pen) (s : String) : Pen :=
  let p := if p.blank then p else p.put ' '
  { p.puts s with blank := false, fresh := false }

/-- A mark without a blank before it. -/
def close (p : Pen) (s : String) : Pen := { p.puts s with blank := false, fresh := false }

/-- The sign of an item, a key or a value, after which the line still counts as
fresh. -/
def sign (p : Pen) (c : Char) : Pen :=
  let p := if p.blank then p else p.put ' '
  { p.put c with blank := false }

def text (p : Pen) : String := String.ofList p.out.reverse

end Pen

/-- The width of a line, after which texts are folded. -/
def lineWidth : Nat := 80

/-! ### Scalars -/

/-- The place of a scalar: the column of its further lines, and whether it may
have any. -/
structure Place where
  indent : Nat
  mayFold : Bool

/-- A plain text. `inSpaces` says whether the last character was a space. -/
def writePlain (place : Place) : Bool → List Char → Pen → Pen
  | _, [], p => p
  | inSpaces, c :: cs, p =>
    if isSpace c then
      if place.mayFold && !inSpaces && p.column > lineWidth && !cs.head?.any isSpace then
        writePlain place true cs (p.indentTo place.indent)
      else writePlain place true cs (p.put c)
    else writePlain place false cs { p.put c with fresh := false }

/-- A text in single quotes, which are doubled inside. -/
def writeSingle (place : Place) : (first inSpaces inBreaks : Bool) → List Char → Pen → Pen
  | _, _, _, [], p => p
  | first, inSpaces, inBreaks, c :: cs, p =>
    if isSpace c then
      if place.mayFold && !inSpaces && p.column > lineWidth && !first && !cs.isEmpty &&
          !cs.head?.any isSpace then
        writeSingle place false true inBreaks cs (p.indentTo place.indent)
      else writeSingle place false true inBreaks cs (p.put c)
    else if isBreak c then
      let p := if !inBreaks && c = '\n' then p.newline else p
      writeSingle place false inSpaces true cs { p.putBreak c with fresh := true }
    else
      let p := if inBreaks then p.indentTo place.indent else p
      let p := if c = '\x27' then p.put c else p
      writeSingle place false false false cs { p.put c with fresh := false }

/-- The letter of a character that has a short escape. -/
def escapeLetter? (c : Char) : Option Char :=
  match c.toNat with
  | 0x00 => some '0'
  | 0x07 => some 'a'
  | 0x08 => some 'b'
  | 0x09 => some 't'
  | 0x0A => some 'n'
  | 0x0B => some 'v'
  | 0x0C => some 'f'
  | 0x0D => some 'r'
  | 0x1B => some 'e'
  | 0x22 => some '"'
  | 0x5C => some '\\'
  | 0x85 => some 'N'
  | 0xA0 => some '_'
  | 0x2028 => some 'L'
  | 0x2029 => some 'P'
  | _ => none

/-- An escaped character: a letter, or two, four or eight digits. -/
def escapeText (c : Char) : List Char :=
  let n := c.toNat
  match escapeLetter? c with
  | some l => ['\\', l]
  | none =>
    let (l, width) := if n ≤ 0xFF then ('x', 2) else if n ≤ 0xFFFF then ('u', 4) else ('U', 8)
    '\\' :: l :: (Text.hex width n).map Char.toUpper

/-- A text in double quotes. A text that starts with the mark of a file is escaped
throughout. -/
def writeDouble (place : Place) (isMarked : Bool) :
    (first inSpaces : Bool) → List Char → Pen → Pen
  | _, _, [], p => p
  | first, inSpaces, c :: cs, p =>
    if isMarked || !isPrintable c || isBreak c || c = '"' || c = '\\' then
      writeDouble place isMarked false false cs ((escapeText c).foldl Pen.put p)
    else if isSpace c then
      if place.mayFold && !inSpaces && p.column > lineWidth && !first && !cs.isEmpty then
        let p := p.indentTo place.indent
        let p := if cs.head?.any isSpace then p.put '\\' else p
        writeDouble place isMarked false true cs p
      else writeDouble place isMarked false true cs (p.put c)
    else writeDouble place isMarked false false cs (p.put c)

/-- The mark of a block: an indentation if the text starts blank, and what happens
to the breaks at its end. -/
def blockMark (cs : List Char) : String :=
  let indentation := if cs.head?.any (fun c => isSpace c || isBreak c) then "2" else ""
  let ending := match cs.reverse with
    | [] => "-"
    | [c] => if isBreak c then "+" else "-"
    | c :: d :: _ => if !isBreak c then "-" else if isBreak d then "+" else ""
  "|" ++ indentation ++ ending

/-- The lines of a block. -/
def writeLines (place : Place) : (inBreaks : Bool) → List Char → Pen → Pen
  | _, [], p => p
  | inBreaks, c :: cs, p =>
    if isBreak c then writeLines place true cs { p.putBreak c with fresh := true }
    else
      let p := if inBreaks then p.indentTo place.indent else p
      writeLines place false cs { p.put c with fresh := false }

/-- A text in the style that suits it. -/
def writeText (place : Place) (s : String) (p : Pen) : Pen :=
  let cs := s.toList
  match styleOf s with
  | .plain =>
    let p := if p.blank then p else p.put ' '
    { writePlain place false cs p with blank := false, fresh := false }
  | .singleQuoted => (writeSingle place true false false cs (p.mark "'")).close "'"
  | .doubleQuoted => (writeDouble place (cs.head? = some orderMark) true false cs (p.mark "\"")).close "\""
  | .literal =>
    let p := (p.mark (blockMark cs)).newline
    writeLines place true cs { p with blank := true, fresh := true }

def floatWord (x : Float) : String :=
  match Text.ofFloat x with
  | .nan => ".nan"
  | .infinite negative => Text.signed negative ".inf"
  | .finite negative d => Text.signed negative d.general

/-! ### Order of keys -/

def keyDigits (cs : List Char) : List Char := cs.takeWhile Text.isDecimalDigit

/-- The number that some digits stand for, in 64 bits. -/
def keyNumber (lead : Int) (cs : List Char) : Int :=
  (cs.foldl (fun (n : Int) c => n * 10 + ((c.toNat : Int) - 48)) lead).bmod UInt64.size

/-- Keys are in natural order: letters come after other characters, and numbers
inside keys by their value. `inNumber` says whether the keys so far agree and end
in a number that is not zero. -/
def textBefore (inNumber : Bool) : List Char → List Char → Bool
  | [], bs => !bs.isEmpty
  | _ :: _, [] => false
  | a :: as, b :: bs =>
    if a = b then textBefore (Text.isDecimalDigit a && (inNumber || a ≠ '0')) as bs
    else if Text.isLetter a && Text.isLetter b then a < b
    else if Text.isLetter a || Text.isLetter b then Text.isLetter b
    else
      let lead : Int := if (a = '0' || b = '0') && inNumber then 1 else 0
      let m := keyDigits (a :: as)
      let n := keyDigits (b :: bs)
      let x := keyNumber lead m
      let y := keyNumber lead n
      if x ≠ y then x < y
      else if m.length ≠ n.length then m.length < n.length
      else a < b

/-- Keys that have a value as numbers, with the place of their kind. -/
def keyValue? : Setting → Option (Float × Nat)
  | .bool b => some (if b then 1.0 else 0.0, 0)
  | .int n => some (Float.ofInt n, if n < Int.pow 2 63 then 1 else 2)
  | .float x => some (x, 3)
  | _ => none

/-- The order of keys: numbers, null, and then texts. -/
def keyBefore (a b : Setting) : Bool :=
  match keyValue? a, keyValue? b with
  | some (x, i), some (y, j) =>
    if x != y then x < y
    else if i ≠ j then i < j
    else
      match a, b with
      | .int m, .int n => m < n
      | _, _ => false
  | some _, none => true
  | none, some _ => false
  | none, none =>
    match a, b with
    | .null, .null => false
    | .null, _ => true
    | _, .null => false
    | a, b => textBefore false a.keyText.toList b.keyText.toList

/-! ### Outlines -/

/-- What is to be written, with the entries of tables in order. -/
inductive Outline where
  /-- A scalar that stands as it is. -/
  | word (s : String)
  | text (s : String)
  /-- A text with a tag in front. -/
  | tagged (tag s : String)
  | list (items : List Outline)
  | table (entries : List (Outline × Outline))

/-- The number of characters of bytes on a line. -/
def bytesWidth : Nat := 70

/-- Cuts a text into lines, each with a newline; one line alone has none. -/
def bytesLines (fuel : Nat) (cs : List Char) : List Char :=
  match fuel with
  | 0 => []
  | fuel + 1 =>
    if cs.isEmpty then [] else cs.take bytesWidth ++ '\n' :: bytesLines fuel (cs.drop bytesWidth)

def bytesText (bs : List UInt8) : String :=
  let cs := Text.Base64.encode bs
  String.ofList (if cs.length < bytesWidth then cs else bytesLines (cs.length + 1) cs)

namespace Outline

/-- Entries by their keys. -/
def arrange (entries : List (Setting × Outline × Outline)) : List (Outline × Outline) :=
  (entries.mergeSort fun a b => !keyBefore b.1 a.1).map (·.2)

mutual

def ofSetting : Setting → Outline
  | .null => .word "null"
  | .bool b => .word (toString b)
  | .int n => .word (toString n)
  | .float x => .word (floatWord x)
  | .text s => .text s
  | .bytes bs => .tagged "!!binary" (bytesText bs)
  | .list items => .list (ofItems items)
  | .table entries => .table (arrange (ofEntries entries))
  | .keyed entries => .table (arrange (ofPairs entries))

def ofItems : List Setting → List Outline
  | [] => []
  | s :: rest => ofSetting s :: ofItems rest

def ofEntries : List (String × Setting) → List (Setting × Outline × Outline)
  | [] => []
  | (k, s) :: rest => (.text k, .text k, ofSetting s) :: ofEntries rest

def ofPairs : List (Setting × Setting) → List (Setting × Outline × Outline)
  | [] => []
  | (k, s) :: rest => (k, ofSetting k, ofSetting s) :: ofPairs rest

end

/-- Whether a key can stand on a line with its value. -/
def isSimple : Outline → Bool
  | .word s | .text s => isSimpleKey s
  | .tagged tag s => isSimpleKey s && tag.length + s.length ≤ 128
  | _ => false

end Outline

/-! ### Settings -/

/-- The column of what is nested in something at a column; the outermost has
none. -/
def deeper : Option Nat → Nat
  | none => 0
  | some n => n + 2

/-- Writes a scalar. -/
def writeScalar (place : Place) : Outline → Pen → Pen
  | .word s, p => p.mark s
  | .text s, p => writeText place s p
  | .tagged tag s, p => writeText place s (p.mark tag)
  | _, p => p

mutual

/-- Writes what is nested in something at a column. `ofKey` says whether it follows
a key. -/
def write (column : Option Nat) (ofKey : Bool) : Outline → Pen → Pen
  | .list [], p => p.mark "[]"
  | .list (s :: rest), p =>
    let place := if ofKey && !p.fresh then column.getD 0 else deeper column
    writeItems place (s :: rest) p
  | .table [], p => p.mark "\x7b\x7d"
  | .table (e :: rest), p => writeEntries (deeper column) (e :: rest) p
  | s, p => writeScalar ⟨deeper column, true⟩ s p

def writeItems (column : Nat) : List Outline → Pen → Pen
  | [], p => p
  | s :: rest, p =>
    writeItems column rest (write (some column) false s ((p.indentTo column).sign '-'))

/-- Writes entries. A key that is not simple has a sign of its own, and so has its
value. -/
def writeEntries (column : Nat) : List (Outline × Outline) → Pen → Pen
  | [], p => p
  | (k, s) :: rest, p =>
    let p := p.indentTo column
    let p := if k.isSimple then (writeScalar ⟨column, false⟩ k p).close ":"
      else
        ((writeScalar ⟨deeper (some column), true⟩ k (p.sign '?')).indentTo column).sign ':'
    writeEntries column rest (write (some column) true s p)

end

/-- The text of a table. -/
def render (t : Table) : String :=
  ((write none false (Outline.ofSetting (.table t)) .start).indentTo 0).text

end ArithCompiler.Config.Yaml
