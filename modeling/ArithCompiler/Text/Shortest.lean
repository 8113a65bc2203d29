/-!
# The shortest decimal of a binary number

A finite binary number is printed with the fewest digits that read back as it.
The reals that read back form an interval around the number. On the grid of
decimals with one, two, … digits only the two neighbours of the number need to
be looked at; the first grid with a neighbour inside the interval gives the
digits, and of two such neighbours the nearer one is taken.
-/

namespace ArithCompiler.Text

/-- Digits `d₁ d₂ …` and the place of the point: the value is
`0.d₁d₂… * 10 ^ point`. Zero has no digits. -/
structure Decimal where
  digits : List Char
  point : Int
deriving DecidableEq, Repr

namespace Decimal

/-- A number `value * unit` with the interval of reals that read back as it, all
three over `den`. -/
structure Interval where
  low : Nat
  value : Nat
  high : Nat
  den : Nat
  /-- Whether the ends belong to it. -/
  closed : Bool

/-- The interval of `m * 2 ^ q`. Below a power of two the numbers are closer. -/
def interval (m : Nat) (q : Int) (atPower : Bool) : Interval :=
  let scale := if q ≥ 2 then Nat.pow 2 (q - 2).toNat else 1
  let den := if q ≥ 2 then 1 else Nat.pow 2 (2 - q).toNat
  let down := if atPower then 1 else 2
  ⟨(4 * m - down) * scale, 4 * m * scale, (4 * m + 2) * scale, den, m % 2 = 0⟩

/-- The number of digits in front of the point. -/
def magnitude (i : Interval) : Int :=
  ((toString (i.value * Nat.pow 10 340 / i.den)).length : Int) - 340

/-- Whether `c * p / r` lies in the interval. -/
def Interval.holds (i : Interval) (c p r : Nat) : Bool :=
  let x := c * p * i.den
  if i.closed then i.low * r ≤ x && x ≤ i.high * r else i.low * r < x && x < i.high * r

/-- The neighbour of the number on the grid of `n` digits that reads back. -/
def onGrid (i : Interval) (mag : Int) (n : Nat) : Option Nat :=
  let p := if mag ≥ n then Nat.pow 10 (mag - n).toNat else 1
  let r := if mag ≥ n then 1 else Nat.pow 10 (n - mag).toNat
  let below := i.value * r / (p * i.den)
  let above := below + 1
  let nearer := if 2 * (i.value * r) ≤ (below + above) * p * i.den then below else above
  let other := if nearer = below then above else below
  if i.holds nearer p r then some nearer
  else if i.holds other p r then some other
  else none

/-- The digits on the first grid from `n` digits on that has a neighbour. -/
def firstGrid (i : Interval) (mag : Int) : Nat → Nat → Nat × Nat
  | 0, n => ((onGrid i mag n).getD 0, n)
  | more + 1, n =>
    match onGrid i mag n with
    | some c => (c, n)
    | none => firstGrid i mag more (n + 1)

def dropZeros (cs : List Char) : List Char := (cs.reverse.dropWhile (· = '0')).reverse

/-- The shortest decimal of `m * 2 ^ q`. -/
def shortest (m : Nat) (q : Int) (atPower : Bool) : Decimal :=
  if m = 0 then ⟨[], 0⟩
  else
    let i := interval m q atPower
    let mag := magnitude i
    let (c, n) := firstGrid i mag 16 1
    let cs := (toString c).toList
    ⟨dropZeros cs, mag + (cs.length : Int) - n⟩

end Decimal

/-- A binary number as its text needs it. -/
inductive Finite where
  | nan
  | infinite (negative : Bool)
  | finite (negative : Bool) (d : Decimal)

/-- Sign and shortest decimal of a number. -/
def ofFloat (x : Float) : Finite :=
  let bits := x.toBits.toNat
  let negative := bits / Nat.pow 2 63 = 1
  let e := bits / Nat.pow 2 52 % Nat.pow 2 11
  let frac := bits % Nat.pow 2 52
  if e = 2047 then if frac = 0 then .infinite negative else .nan
  else
    let m := if e = 0 then frac else frac + Nat.pow 2 52
    let q : Int := (max e 1 : Nat) - 1075
    .finite negative (Decimal.shortest m q (frac = 0 && e > 1))

def zeros (n : Nat) : String := "".pushn '0' n

/-- Digits with the point where it belongs. -/
def Decimal.positional (d : Decimal) : String :=
  let s := String.ofList d.digits
  let n := d.digits.length
  if d.digits.isEmpty then "0"
  else if d.point ≤ 0 then "0." ++ zeros (-d.point).toNat ++ s
  else if d.point ≥ n then s ++ zeros (d.point - n).toNat
  else
    String.ofList (d.digits.take d.point.toNat) ++ "." ++
      String.ofList (d.digits.drop d.point.toNat)

/-- One digit in front of the point, and an exponent of at least two digits. -/
def Decimal.scientific (d : Decimal) : String :=
  let e := d.point - 1
  let mantissa := match d.digits with
    | [] => "0"
    | [c] => c.toString
    | c :: cs => c.toString ++ "." ++ String.ofList cs
  let size := toString e.natAbs
  mantissa ++ "e" ++ (if e < 0 then "-" else "+") ++
    (if size.length < 2 then "0" else "") ++ size

/-- Positional for exponents from `-4` to `5`, scientific elsewhere. -/
def Decimal.general (d : Decimal) : String :=
  if d.digits.isEmpty then "0"
  else if d.point - 1 < -4 || d.point - 1 ≥ 6 then d.scientific
  else d.positional

def signed (negative : Bool) (s : String) : String := if negative then "-" ++ s else s

end ArithCompiler.Text
