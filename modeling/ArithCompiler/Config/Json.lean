import ArithCompiler.Config.Scalar
import ArithCompiler.Text.Quoted
import ArithCompiler.Text.Utf8

/-!
# Settings from JSON

The text is one object. All numbers are binary fractions. An error tells the
first character that cannot be there and what was expected in its place.
-/

namespace ArithCompiler.Config.Json

/-- What was being read when a character did not fit. -/
inductive Place where
  | value
  | key
  | afterKey
  | afterEntry
  | afterItem
  | afterAll
  | string
  | escape
  | hexEscape
  | number
  | decimals
  | exponent
  | word (whole : String) (expected : Char)
deriving DecidableEq, Repr

inductive JsonError where
  | ended
  | unexpected (c : Char) (place : Place)
  | outOfRange (number : String)
  | notTable (kind : String)
deriving DecidableEq, Repr

namespace Place

def text : Place → String
  | .value => "looking for beginning of value"
  | .key => "looking for beginning of object key string"
  | .afterKey => "after object key"
  | .afterEntry => "after object key:value pair"
  | .afterItem => "after array element"
  | .afterAll => "after top-level value"
  | .string => "in string literal"
  | .escape => "in string escape code"
  | .hexEscape => "in \\u hexadecimal character escape"
  | .number => "in numeric literal"
  | .decimals => "after decimal point in numeric literal"
  | .exponent => "in exponent of numeric literal"
  | .word whole expected =>
    "in literal " ++ whole ++ " (expecting " ++ Text.quoteChar expected ++ ")"

end Place

/-- A character in a message, which shows the first byte of its encoding. -/
def byteText (c : Char) : String :=
  match Text.encode c.toString with
  | b :: _ => Text.quoteChar (Char.ofNat b.toNat)
  | [] => ""

def JsonError.message : JsonError → String
  | .ended => "unexpected end of JSON input"
  | .unexpected c place => "invalid character " ++ byteText c ++ " " ++ place.text
  | .outOfRange number =>
    "json: cannot unmarshal number " ++ number ++ " into Go value of type float64"
  | .notTable kind =>
    "json: cannot unmarshal " ++ kind ++ " into Go value of type map[string]interface \x7b\x7d"

/-- A value, and the input after it. -/
abbrev Read (α : Type) := Except JsonError (α × List Char)

def isGap (c : Char) : Bool := c == ' ' || c == '\t' || c == '\n' || c == '\r'

def skipGap (cs : List Char) : List Char := cs.dropWhile isGap

/-- The error at the front of some input. -/
def stuck {α : Type} (place : Place) : List Char → Read α
  | [] => .error .ended
  | c :: _ => .error (.unexpected c place)

/-! ### Scalars -/

/-- The rest of a word. -/
def word {α : Type} (whole : String) (a : α) : List Char → List Char → Read α
  | [], rest => .ok (a, rest)
  | _ :: _, [] => .error .ended
  | e :: es, c :: cs =>
    if e = c then word whole a es cs else .error (.unexpected c (.word whole e))

/-- Four digits of an escape. -/
def hex4 : Nat → Nat → List Char → Read Nat
  | 0, n, cs => .ok (n, cs)
  | _ + 1, _, [] => .error .ended
  | k + 1, n, c :: cs =>
    match Scalar.digit? c with
    | some d => hex4 k (n * 16 + d) cs
    | none => .error (.unexpected c .hexEscape)

/-- The character of a short escape. -/
def unescape? (c : Char) : Option Char :=
  match c with
  | 'b' => some (Char.ofNat 0x08)
  | 'f' => some (Char.ofNat 0x0C)
  | 'n' => some '\n'
  | 'r' => some '\r'
  | 't' => some '\t'
  | '"' | '\\' | '/' => some c
  | _ => none

/-- Joins the two halves of a character outside the first plane; a half alone
becomes the replacement character. -/
def joinHalves : List Nat → List Char
  | [] => []
  | [n] => if 0xD800 ≤ n && n < 0xE000 then [Text.replacement] else [Char.ofNat n]
  | m :: n :: rest =>
    if 0xD800 ≤ m && m < 0xDC00 && 0xDC00 ≤ n && n < 0xE000 then
      Char.ofNat (0x10000 + (m - 0xD800) * 0x400 + (n - 0xDC00)) :: joinHalves rest
    else if 0xD800 ≤ m && m < 0xE000 then Text.replacement :: joinHalves (n :: rest)
    else Char.ofNat m :: joinHalves (n :: rest)

/-- The rest of a string; `done` holds its code units, last first. -/
def string (fuel : Nat) (done : List Nat) (cs : List Char) : Read String :=
  match fuel, cs with
  | 0, _ => .error .ended
  | _, [] => .error .ended
  | _ + 1, '"' :: rest => .ok (String.ofList (joinHalves done.reverse), rest)
  | _ + 1, ['\\'] => .error .ended
  | fuel + 1, '\\' :: c :: rest =>
    if c = 'u' then
      match hex4 4 0 rest with
      | .error e => .error e
      | .ok (n, rest) => string fuel (n :: done) rest
    else
      match unescape? c with
      | some d => string fuel (d.toNat :: done) rest
      | none => .error (.unexpected c .escape)
  | fuel + 1, c :: rest =>
    if c < ' ' then .error (.unexpected c .string) else string fuel (c.toNat :: done) rest

/-- Digits of which there is at least one. -/
def digits (place : Place) (cs : List Char) : Except JsonError (List Char × List Char) :=
  match cs.takeWhile Scalar.isDigit with
  | [] => stuck place cs
  | ds => .ok (ds, cs.drop ds.length)

/-- The whole part: zero alone or digits that start with another. -/
def wholePart (cs : List Char) : Except JsonError (List Char × List Char) :=
  match cs with
  | '0' :: rest => .ok (['0'], rest)
  | _ => digits .number cs

/-- A number. One that is too large counts only if `strict` says so. -/
def number (strict : Bool) (cs : List Char) : Except JsonError (Setting × List Char) := do
  let (sign, cs) := match cs with
    | '-' :: rest => (['-'], rest)
    | _ => ([], cs)
  let (whole, cs) ← wholePart cs
  let (part, cs) ← match cs with
    | '.' :: rest => (digits .decimals rest).map fun (ds, cs) => ('.' :: ds, cs)
    | _ => .ok ([], cs)
  let (power, cs) ← match cs with
    | e :: rest =>
      if e = 'e' || e = 'E' then
        match rest with
        | '+' :: more => (digits .exponent more).map fun (ds, cs) => ('e' :: '+' :: ds, cs)
        | '-' :: more => (digits .exponent more).map fun (ds, cs) => ('e' :: '-' :: ds, cs)
        | _ => (digits .exponent rest).map fun (ds, cs) => ('e' :: ds, cs)
      else .ok ([], cs)
    | [] => .ok ([], cs)
  let text := sign ++ whole ++ part ++ power
  match Scalar.float? text with
  | some x => .ok (.float x, cs)
  | none => if strict then .error (.outOfRange (String.ofList text)) else .ok (.float 0.0, cs)

/-! ### Values -/

mutual

def value (strict : Bool) (fuel : Nat) (cs : List Char) : Read Setting :=
  match fuel with
  | 0 => .error .ended
  | fuel + 1 =>
    match skipGap cs with
    | [] => .error .ended
    | '\x7b' :: rest =>
      match skipGap rest with
      | '\x7d' :: rest => .ok (.table [], rest)
      | rest => entries strict fuel [] rest
    | '[' :: rest =>
      match skipGap rest with
      | ']' :: rest => .ok (.list [], rest)
      | rest => items strict fuel [] rest
    | '"' :: rest => (string (rest.length + 1) [] rest).map fun (s, rest) => (.text s, rest)
    | 't' :: rest => word "true" (.bool true) ['r', 'u', 'e'] rest
    | 'f' :: rest => word "false" (.bool false) ['a', 'l', 's', 'e'] rest
    | 'n' :: rest => word "null" .null ['u', 'l', 'l'] rest
    | c :: rest =>
      if c = '-' || Scalar.isDigit c then number strict (c :: rest)
      else .error (.unexpected c .value)

/-- Entries from a key on, up to the brace. -/
def entries (strict : Bool) (fuel : Nat) (done : Table) (cs : List Char) : Read Setting :=
  match fuel with
  | 0 => .error .ended
  | fuel + 1 =>
    match skipGap cs with
    | '"' :: rest =>
      match string (rest.length + 1) [] rest with
      | .error e => .error e
      | .ok (key, rest) =>
        match skipGap rest with
        | ':' :: rest =>
          match value strict fuel rest with
          | .error e => .error e
          | .ok (v, rest) =>
            match skipGap rest with
            | ',' :: rest => entries strict fuel (done.set key v) rest
            | '\x7d' :: rest => .ok (.table (done.set key v), rest)
            | rest => stuck .afterEntry rest
        | rest => stuck .afterKey rest
    | rest => stuck .key rest

/-- Items from a value on, up to the bracket. -/
def items (strict : Bool) (fuel : Nat) (done : List Setting) (cs : List Char) : Read Setting :=
  match fuel with
  | 0 => .error .ended
  | fuel + 1 =>
    match value strict fuel cs with
    | .error e => .error e
    | .ok (v, rest) =>
      match skipGap rest with
      | ',' :: rest => items strict fuel (v :: done) rest
      | ']' :: rest => .ok (.list (v :: done).reverse, rest)
      | rest => stuck .afterItem rest

end

/-- The one value of a text. -/
def whole (strict : Bool) (s : String) : Except JsonError Setting :=
  match value strict (2 * s.length + 2) s.toList with
  | .error e => .error e
  | .ok (v, rest) =>
    match skipGap rest with
    | c :: _ => .error (.unexpected c .afterAll)
    | [] => .ok v

/-- The table of a text. Its form counts first, then what it is, and last the size
of its numbers. -/
def parse (s : String) : Except JsonError Table := do
  match ← whole false s with
  | .table _ =>
    match ← whole true s with
    | .table t => .ok t
    | _ => .ok []
  | .null => .ok []
  | .bool _ => .error (.notTable "bool")
  | .int _ | .float _ => .error (.notTable "number")
  | .text _ => .error (.notTable "string")
  | _ => .error (.notTable "array")

end ArithCompiler.Config.Json
