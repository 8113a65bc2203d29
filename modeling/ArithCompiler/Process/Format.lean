import ArithCompiler.Process.Arithmetic
import ArithCompiler.Text.Pieces
import ArithCompiler.Text.Utf8

/-!
# Formatted output

Text with backslash escapes, and formats whose directives take up arguments. An
escape can name any byte, so the results are bytes.
-/

namespace ArithCompiler.Process

/-- What a command says: a status, messages about its arguments, and its output. -/
structure Said where
  status : Nat
  messages : List String
  bytes : List UInt8
deriving DecidableEq, Repr

def bytesOf (cs : List Char) : List UInt8 := Text.encode (String.ofList cs)

/-! ### Escapes -/

def isOctalDigit (c : Char) : Bool := '0' ≤ c && c ≤ '7'

def octalByte (cs : List Char) : UInt8 :=
  UInt8.ofNat (cs.foldl (fun n c => n * 8 + (c.toNat - 48)) 0)

/-- The byte of an escape with one letter. -/
def letterByte? (c : Char) : Option UInt8 :=
  match c with
  | 'a' => some 7
  | 'b' => some 8
  | 'e' => some 27
  | 'f' => some 12
  | 'n' => some 10
  | 'r' => some 13
  | 't' => some 9
  | 'v' => some 11
  | '\\' => some 92
  | _ => none

/-- The bytes of what follows a backslash, and the number of characters used. An
unknown escape stands for itself. -/
def escape (cs : List Char) : List UInt8 × Nat :=
  match cs with
  | [] => ([92], 0)
  | c :: _ =>
    match letterByte? c with
    | some b => ([b], 1)
    | none =>
      match (cs.take 3).takeWhile isOctalDigit with
      | [] => (92 :: bytesOf [c], 1)
      | ds => ([octalByte ds], ds.length)

/-- Text with its escapes carried out, where a zero may stand in front of octal
digits; says whether an escape ends all output. -/
def unescape : (fuel : Nat) → List Char → List UInt8 × Bool
  | 0, _ => ([], false)
  | _, [] => ([], false)
  | _ + 1, '\\' :: 'c' :: _ => ([], true)
  | fuel + 1, '\\' :: rest =>
    let (bytes, size) := match rest with
      | '0' :: more =>
        let ds := (more.take 3).takeWhile isOctalDigit
        ([octalByte ds], ds.length + 1)
      | _ => escape rest
    let (out, ended) := unescape fuel (rest.drop size)
    (bytes ++ out, ended)
  | fuel + 1, c :: rest =>
    let (out, ended) := unescape fuel rest
    (bytesOf [c] ++ out, ended)

def unescapeAll (s : String) : List UInt8 × Bool := unescape (s.length + 1) s.toList

/-- Shows arguments with blanks between them and a line break behind. -/
def echo (args : List String) : Said :=
  let (lineEnd, args) : List UInt8 × List String := match args with
    | "-n" :: rest => ([], rest)
    | _ => ([10], args)
  let (out, ended) := unescapeAll (String.intercalate " " args)
  ⟨0, [], if ended then out else out ++ lineEnd⟩

/-! ### Directives -/

/-- How a directive lays out its argument. -/
structure Layout where
  toLeft : Bool
  plus : Bool
  blank : Bool
  zero : Bool
  alternate : Bool
  width : Nat
  precision : Option Nat
deriving DecidableEq, Repr

/-- Fills a text up to the width of a layout. -/
def Layout.pad (l : Layout) (bytes : List UInt8) : List UInt8 :=
  let fill := List.replicate (l.width - bytes.length) (32 : UInt8)
  if l.toLeft then bytes ++ fill else fill ++ bytes

/-- Digits behind a sign, filled up with zeros as the layout asks. -/
def Layout.number (l : Layout) (sign digits : String) : List UInt8 :=
  let zeros (n : Nat) : String := String.ofList (List.replicate n '0')
  let digits := zeros (l.precision.getD 0 - digits.length) ++ digits
  let inner :=
    if l.zero && !l.toLeft && l.precision.isNone then
      zeros (l.width - sign.length - digits.length)
    else ""
  l.pad (Text.encode (sign ++ inner ++ digits))

def inBase (base : Nat) (n : Nat) : String := String.ofList (Nat.toDigits base n)

/-- The number of an argument, and the complaint about it. -/
def numberArg (s : String) : Int × Option String :=
  match s.toList.dropWhile Arithmetic.isGap with
  | [] => (0, none)
  | '\x27' :: c :: _ | '"' :: c :: _ => (c.toNat, none)
  | cs =>
    let (negative, cs) := match cs with
      | '-' :: rest => (true, rest)
      | '+' :: rest => (false, rest)
      | _ => (false, cs)
    let isHex := (cs.take 2 == ['0', 'x'] || cs.take 2 == ['0', 'X']) &&
      (cs.drop 2).head?.any Arithmetic.isHexDigit
    let (base, cs, isDigit) :=
      if isHex then (16, cs.drop 2, Arithmetic.isHexDigit)
      else if cs.head? == some '0' then (8, cs, isOctalDigit)
      else (10, cs, Char.isDigit)
    let digits := cs.takeWhile isDigit
    let size : Nat := digits.foldl (fun n c => n * base + Arithmetic.digit c) 0
    let n : Int := if negative then -size else size
    if digits.isEmpty then (0, some (s ++ ": expected numeric value"))
    else if n > Int.pow 2 63 - 1 || n < - Int.pow 2 63 then
      (if negative then - Int.pow 2 63 else Int.pow 2 63 - 1,
        some (s ++ ": Numerical result out of range"))
    else if digits.length < cs.length then (n, some (s ++ ": not completely converted"))
    else (n, none)

/-- A format under way: what it has written, its messages, and the arguments left. -/
structure Filling where
  bytes : List UInt8
  messages : List String
  args : List String
  /-- Set if the rest of the format is not looked at, to a status. -/
  ended : Option Nat
deriving DecidableEq, Repr

namespace Filling

def write (f : Filling) (bytes : List UInt8) : Filling := { f with bytes := f.bytes ++ bytes }

/-- Takes up an argument as a number. -/
def number (f : Filling) : Int × Filling :=
  let (n, complaint) := numberArg (f.args.headD "")
  (n, { f with args := f.args.tail, messages := f.messages ++ complaint.toList })

/-- A width or precision at the front: digits, or a star for an argument. -/
def size (f : Filling) (cs : List Char) : Option Nat × Filling × List Char :=
  match cs with
  | '*' :: rest =>
    let (n, f) := f.number
    (some n.toNat, f, rest)
  | _ =>
    let digits := cs.takeWhile Char.isDigit
    (if digits.isEmpty then none else some (digits.foldl (fun n c => n * 10 + (c.toNat - 48)) 0), f,
      cs.drop digits.length)

/-- Carries out a directive; none if there is no such directive. -/
def directive? (f : Filling) (l : Layout) (c : Char) : Option Filling :=
  let next := { f with args := f.args.tail }
  let cut (bytes : List UInt8) : List UInt8 := match l.precision with
    | some n => bytes.take n
    | none => bytes
  let unsigned (lead : String) (shown : Nat → String) : Option Filling :=
    let (n, f) := f.number
    let n := (n % UInt64.size).toNat
    some (f.write (l.number (if l.alternate && n ≠ 0 then lead else "") (shown n)))
  match c with
  | 's' => some (next.write (l.pad (cut (Text.encode (f.args.headD "")))))
  | 'b' =>
    let (bytes, ended) := unescapeAll (f.args.headD "")
    some { next.write (l.pad (cut bytes)) with ended := if ended then some 0 else none }
  | 'c' => some (next.write (l.pad (match Text.encode (f.args.headD "") with
      | b :: _ => [b]
      | [] => [0])))
  | 'd' | 'i' =>
    let (n, f) := f.number
    let sign := if n < 0 then "-" else if l.plus then "+" else if l.blank then " " else ""
    some (f.write (l.number sign (toString n.natAbs)))
  | 'u' => unsigned "" toString
  | 'o' => unsigned "0" (inBase 8)
  | 'x' => unsigned "0x" (inBase 16)
  | 'X' => unsigned "0X" fun n => (inBase 16 n).map Char.toUpper
  | _ => none

end Filling

def isLayoutSign (c : Char) : Bool := c ∈ ['-', '+', ' ', '0', '#']

/-- Writes a format once. -/
def fill : (fuel : Nat) → Filling → List Char → Filling
  | 0, f, _ => f
  | _, f, [] => f
  | fuel + 1, f, '%' :: '%' :: rest => fill fuel (f.write [37]) rest
  | fuel + 1, f, '%' :: rest =>
    let signs := rest.takeWhile isLayoutSign
    let (width, f, after) := f.size (rest.drop signs.length)
    let (precision, f, after) := match after with
      | '.' :: more =>
        let (p, f, more) := f.size more
        (some (p.getD 0), f, more)
      | _ => (none, f, after)
    let layout : Layout := ⟨'-' ∈ signs, '+' ∈ signs, ' ' ∈ signs, '0' ∈ signs, '#' ∈ signs,
      width.getD 0, precision⟩
    match after with
    | [] => { f with messages := f.messages ++ ["missing format character"], ended := some 2 }
    | c :: after =>
      match f.directive? layout c with
      | some f => if f.ended.isSome then f else fill fuel f after
      | none =>
        let text := String.ofList ('%' :: rest.take (rest.length - after.length))
        { f with messages := f.messages ++ [text ++ ": invalid directive"], ended := some 2 }
  | fuel + 1, f, '\\' :: rest =>
    let (bytes, size) := escape rest
    fill fuel (f.write bytes) (rest.drop size)
  | fuel + 1, f, c :: rest => fill fuel (f.write (bytesOf [c])) rest

/-- Writes a format again for as long as it takes up arguments. -/
def fillAgain (format : List Char) : (fuel : Nat) → Filling → Filling
  | 0, f => f
  | fuel + 1, f =>
    let next := fill (format.length + 1) f format
    if next.ended.isSome || next.args.isEmpty || next.args.length = f.args.length then next
    else fillAgain format fuel next

def printf (args : List String) : Said :=
  match if args.head? == some "--" then args.tail else args with
  | [] => ⟨2, ["usage: printf format [arg ...]"], []⟩
  | format :: rest =>
    if args.head? ≠ some "--" && format.length > 1 && Text.startsWith format "-" then
      ⟨2, ["Illegal option -" ++ String.ofList ((format.toList.drop 1).take 1)], []⟩
    else
      let f := fillAgain format.toList (rest.length + 1) ⟨[], [], rest, none⟩
      ⟨f.ended.getD (if f.messages.isEmpty then 0 else 1), f.messages, f.bytes⟩

end ArithCompiler.Process
