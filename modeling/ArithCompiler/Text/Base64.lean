/-!
# Base 64

Three bytes are written as four characters of six bits each. A last group of one
or two bytes is filled up with equality signs.
-/

namespace ArithCompiler.Text.Base64

/-- The six bits of a character. -/
def bits? (c : Char) : Option Nat :=
  if 'A' ≤ c && c ≤ 'Z' then some (c.toNat - 65)
  else if 'a' ≤ c && c ≤ 'z' then some (c.toNat - 71)
  else if '0' ≤ c && c ≤ '9' then some (c.toNat + 4)
  else if c = '+' then some 62
  else if c = '/' then some 63
  else none

/-- The character of six bits. -/
def character (n : Nat) : Char :=
  if n < 26 then Char.ofNat (n + 65)
  else if n < 52 then Char.ofNat (n + 71)
  else if n < 62 then Char.ofNat (n - 4)
  else if n = 62 then '+'
  else '/'

/-- Reads groups of four characters; only the last may be filled up. -/
def decodeGroups : List Char → Option (List UInt8)
  | [] => some []
  | [a, b, '=', '='] =>
    match bits? a, bits? b with
    | some x, some y => some [UInt8.ofNat (x * 4 + y / 16)]
    | _, _ => none
  | [a, b, c, '='] =>
    match bits? a, bits? b, bits? c with
    | some x, some y, some z =>
      some [UInt8.ofNat (x * 4 + y / 16), UInt8.ofNat (y * 16 + z / 4)]
    | _, _, _ => none
  | a :: b :: c :: d :: rest =>
    match bits? a, bits? b, bits? c, bits? d, decodeGroups rest with
    | some x, some y, some z, some w, some more =>
      some (UInt8.ofNat (x * 4 + y / 16) :: UInt8.ofNat (y * 16 + z / 4) ::
        UInt8.ofNat (z * 64 + w) :: more)
    | _, _, _, _, _ => none
  | _ => none

/-- The bytes of a text, in which breaks do not count. -/
def decode (s : String) : Option (List UInt8) :=
  decodeGroups (s.toList.filter fun c => c ≠ '\n' && c ≠ '\r')

def encode : List UInt8 → List Char
  | [] => []
  | [a] =>
    let n := a.toNat * 16
    [character (n / 64), character (n % 64), '=', '=']
  | [a, b] =>
    let n := (a.toNat * 256 + b.toNat) * 4
    [character (n / 4096), character (n / 64 % 64), character (n % 64), '=']
  | a :: b :: c :: rest =>
    let n := (a.toNat * 256 + b.toNat) * 256 + c.toNat
    character (n / 262144) :: character (n / 4096 % 64) :: character (n / 64 % 64) ::
      character (n % 64) :: encode rest

end ArithCompiler.Text.Base64
