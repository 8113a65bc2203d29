import ArithCompiler.Config.Setting
import ArithCompiler.Text.Numeral

/-!
# Plain scalars

A scalar that is written without quotes is null, a truth value, a number or a
text, by its form alone. A text whose form is that of another kind has to be
quoted when it is written.
-/

namespace ArithCompiler.Config.Scalar

/-! ### Words -/

def trueWords : List String :=
  ["y", "Y", "yes", "Yes", "YES", "true", "True", "TRUE", "on", "On", "ON"]

def falseWords : List String :=
  ["n", "N", "no", "No", "NO", "false", "False", "FALSE", "off", "Off", "OFF"]

def nullWords : List String := ["", "~", "null", "Null", "NULL"]

def nanWords : List String := [".nan", ".NaN", ".NAN"]

def infinityWords : List String := [".inf", ".Inf", ".INF", "+.inf", "+.Inf", "+.INF"]

def minusInfinityWords : List String := ["-.inf", "-.Inf", "-.INF"]

def word? (s : String) : Option Setting :=
  if s ∈ trueWords then some (.bool true)
  else if s ∈ falseWords then some (.bool false)
  else if s ∈ nullWords then some .null
  else if s ∈ nanWords then some (.float (0.0 / 0.0))
  else if s ∈ infinityWords then some (.float (1.0 / 0.0))
  else if s ∈ minusInfinityWords then some (.float (-1.0 / 0.0))
  else none

/-! ### Whole numbers -/

/-- The value of a digit in bases up to sixteen. -/
def digit? (c : Char) : Option Nat :=
  if '0' ≤ c && c ≤ '9' then some (c.toNat - 48)
  else if 'a' ≤ c && c ≤ 'f' then some (c.toNat - 87)
  else if 'A' ≤ c && c ≤ 'F' then some (c.toNat - 55)
  else none

/-- Reads digits of a base after those that gave `n`. -/
def inBase? (base : Nat) : Nat → List Char → Option Nat
  | n, [] => some n
  | n, c :: cs =>
    match digit? c with
    | some d => if d < base then inBase? base (n * base + d) cs else none
    | none => none

/-- A whole number without a sign, with its base in front: `0x`, `0o`, `0b`, or
`0` alone for octal. -/
def natural? : List Char → Option Nat
  | [] => none
  | '0' :: c :: d :: cs =>
    if c = 'x' || c = 'X' then inBase? 16 0 (d :: cs)
    else if c = 'o' || c = 'O' then inBase? 8 0 (d :: cs)
    else if c = 'b' || c = 'B' then inBase? 2 0 (d :: cs)
    else inBase? 8 0 (c :: d :: cs)
  | '0' :: cs => inBase? 8 0 cs
  | cs => inBase? 10 0 cs

/-- A whole number of at most 64 bits; only positive ones may use the last bit. -/
def integer? (cs : List Char) : Option Int :=
  match cs with
  | '-' :: rest =>
    match natural? rest with
    | some n => if n ≤ Nat.pow 2 63 then some (- (n : Int)) else none
    | none => none
  | '+' :: rest =>
    match natural? rest with
    | some n => if n < Nat.pow 2 63 then some n else none
    | none => none
  | _ =>
    match natural? cs with
    | some n => if n < UInt64.size then some n else none
    | none => none

/-- A whole number in base two behind `0b`, with a sign in front of the mark or
behind it. -/
def signedBinary? (cs : List Char) : Option Int :=
  let natural (ds : List Char) : Option Nat := if ds.isEmpty then none else inBase? 2 0 ds
  let below (limit : Nat) (n : Option Nat) : Option Nat := n.filter (· < limit)
  match cs with
  | '0' :: 'b' :: '-' :: ds => (below (Nat.pow 2 63 + 1) (natural ds)).map fun n => - (n : Int)
  | '0' :: 'b' :: '+' :: ds => (below (Nat.pow 2 63) (natural ds)).map Int.ofNat
  | _ => none

/-! ### Decimal fractions -/

def isDigit (c : Char) : Bool := '0' ≤ c && c ≤ '9'

/-- An exponent with its mark, or nothing. -/
def exponent? : List Char → Option Int
  | [] => some 0
  | e :: cs =>
    if e = 'e' || e = 'E' then
      match cs with
      | '-' :: d :: ds => (inBase? 10 0 (d :: ds)).map fun n => - (n : Int)
      | '+' :: d :: ds => (inBase? 10 0 (d :: ds)).map Int.ofNat
      | d :: ds => (inBase? 10 0 (d :: ds)).map Int.ofNat
      | [] => none
    else none

/-- The number `m * 10 ^ e`, if it is not too large. -/
def scaled? (m : Nat) (e : Int) : Option Float :=
  let size := (toString m).length
  if m = 0 then some 0.0
  else if e + size > 400 then none
  else if e + size < -400 then some 0.0
  else
    let x := if e < 0 then Float.ofScientific m true (-e).toNat
      else Float.ofScientific m false e.toNat
    if x.isInf then none else some x

/-- A decimal fraction without a sign: digits with a point before, among or after
them, and an exponent. -/
def fraction? (cs : List Char) : Option Float :=
  let whole := cs.takeWhile isDigit
  let rest := cs.dropWhile isDigit
  let (part, rest) := match rest with
    | '.' :: more => (more.takeWhile isDigit, more.dropWhile isDigit)
    | _ => ([], rest)
  if whole.isEmpty && part.isEmpty then none
  else
    match exponent? rest, inBase? 10 0 (whole ++ part) with
    | some e, some m => scaled? m (e - part.length)
    | _, _ => none

def float? (cs : List Char) : Option Float :=
  match cs with
  | '-' :: rest => (fraction? rest).map fun x => -x
  | '+' :: rest => fraction? rest
  | _ => fraction? cs

/-- Whether each underscore stands between two digits. `afterDigit` tells of the
character before. -/
def underscoresFit (afterDigit : Bool) : List Char → Bool
  | [] => true
  | '_' :: rest => afterDigit && rest.head?.any isDigit && underscoresFit false rest
  | c :: rest => underscoresFit (isDigit c) rest

/-! ### Dates -/

def twoDigits? (low high : Nat) (cs : List Char) : Option Nat :=
  if cs.isEmpty || cs.length > 2 then none
  else
    match inBase? 10 0 cs with
    | some n => if low ≤ n && n ≤ high then some n else none
    | none => none

def daysIn (year month : Nat) : Nat :=
  if month = 2 then
    if year % 4 = 0 && (year % 100 ≠ 0 || year % 400 = 0) then 29 else 28
  else if month ∈ [4, 6, 9, 11] then 30
  else 31

def isDate (cs : List Char) : Bool :=
  match Text.pieces '-' cs with
  | [y, m, d] =>
    match y.length, inBase? 10 0 y, twoDigits? 1 12 m, twoDigits? 1 31 d with
    | 4, some y, some m, some d => d ≤ daysIn y m
    | _, _, _, _ => false
  | _ => false

/-- Hours, minutes and seconds, these with a fraction. -/
def isClock (cs : List Char) : Bool :=
  match Text.pieces ':' cs with
  | [h, m, s] =>
    let whole := s.takeWhile isDigit
    let part := s.dropWhile isDigit
    (twoDigits? 0 23 h).isSome && (twoDigits? 0 59 m).isSome && (twoDigits? 0 59 whole).isSome &&
      (part.isEmpty || (part.head?.any (fun c => c = '.' || c = ',') && part.length > 1 &&
        part.tail.all isDigit))
  | _ => false

/-- `Z`, or a sign with hours and minutes. -/
def isZone (cs : List Char) : Bool :=
  match cs with
  | ['Z'] => true
  | sign :: a :: b :: ':' :: [c, d] =>
    (sign = '+' || sign = '-') && (twoDigits? 0 24 [a, b]).isSome && (twoDigits? 0 60 [c, d]).isSome
  | _ => false

/-- A date, alone or with a time of day. -/
def isTimestamp (cs : List Char) : Bool :=
  let date := cs.takeWhile fun c => isDigit c || c = '-'
  match cs.drop date.length with
  | [] => isDate date
  | ' ' :: clock => isDate date && isClock (clock.dropWhile (· = ' '))
  | t :: rest =>
    let clock := rest.takeWhile fun c => isDigit c || c ∈ [':', '.', ',']
    (t = 'T' || t = 't') && isDate date && isClock clock && isZone (rest.drop clock.length)

/-! ### Resolution -/

/-- A number by its form; underscores do not count. A date is a text. -/
def number? (cs : List Char) : Option Setting :=
  if isTimestamp cs then none
  else
    let plain := cs.filter (· ≠ '_')
    match integer? plain with
    | some n => some (.int n)
    | none =>
      match float? plain with
      | some x => some (.float x)
      | none => (signedBinary? plain).map Setting.int

/-- What a scalar without quotes stands for. -/
def resolve (s : String) : Setting :=
  match word? s with
  | some v => v
  | none =>
    match s.toList with
    | c :: cs =>
      if c = '.' then
        if underscoresFit false cs then
          match fraction? (c :: cs.filter (· ≠ '_')) with
          | some x => .float x
          | none => .text s
        else .text s
      else if isDigit c || c = '+' || c = '-' then (number? (c :: cs)).getD (.text s)
      else .text s
    | [] => .text s

/-- Groups of at most two digits after colons: minutes and seconds. -/
def isSexagesimalTail (cs : List Char) : Bool :=
  match Text.pieces ':' cs with
  | [] => false
  | first :: groups =>
    let groups := groups.dropLast ++ (groups.getLast?.toList.map (·.takeWhile (· ≠ '.')))
    let part := cs.dropWhile (· ≠ '.')
    !first.isEmpty && isDigit (first.headD ' ') && first.all (fun c => isDigit c || c = '_') &&
      !groups.isEmpty &&
      groups.all (fun g => (twoDigits? 0 59 g).isSome) &&
      part.tail.all (fun c => isDigit c || c = '_')

/-- A number in base sixty, such as `1:30`. -/
def isSexagesimal (s : String) : Bool :=
  match s.toList with
  | '-' :: cs => isSexagesimalTail cs
  | '+' :: cs => isSexagesimalTail cs
  | cs => isSexagesimalTail cs

/-- Whether a text without quotes would be read as something else. -/
def needsQuotes (s : String) : Bool :=
  (match resolve s with
    | .text _ => false
    | _ => true) || isTimestamp s.toList || isSexagesimal s

end ArithCompiler.Config.Scalar
