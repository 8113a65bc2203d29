/-!
# Characters of a byte string

Source text arrives as bytes. `decode` reads it as UTF-8: each byte that is not
part of a valid encoding (overlong, surrogate, above U+10FFFF or truncated) is
read as one replacement character, and reading goes on at the next byte.
-/

namespace ArithCompiler.Text

/-- Stands for a byte that belongs to no valid encoding. -/
def replacement : Char := Char.ofNat 0xfffd

/-! ### Multi-byte encodings -/

/-- Bytes `80` to `bf` continue an encoding. -/
def isTail (b : UInt8) : Bool := 0x80 ≤ b && b ≤ 0xbf

/-- Six payload bits of a continuation byte. -/
def payload (b : UInt8) : Nat := b.toNat % 64

/-- Whether `b1` may follow the leading byte `b0`. The bounds of the second byte
exclude overlong encodings, surrogates and values above U+10FFFF. -/
def mayFollow (b0 b1 : UInt8) : Bool :=
  if b0 == 0xe0 then 0xa0 ≤ b1 && b1 ≤ 0xbf
  else if b0 == 0xed then 0x80 ≤ b1 && b1 ≤ 0x9f
  else if b0 == 0xf0 then 0x90 ≤ b1 && b1 ≤ 0xbf
  else if b0 == 0xf4 then 0x80 ≤ b1 && b1 ≤ 0x8f
  else isTail b1

/-- The character encoded by `b0` and the bytes after it, with the number of
those bytes; `none` when they encode nothing. -/
def multibyte (b0 : UInt8) : List UInt8 → Option (Char × Nat)
  | b1 :: rest =>
    if 0xc2 ≤ b0 && b0 ≤ 0xdf then
      if isTail b1 then some (Char.ofNat (b0.toNat % 32 * 64 + payload b1), 1) else none
    else if 0xe0 ≤ b0 && b0 ≤ 0xef then
      match rest with
      | b2 :: _ =>
        if mayFollow b0 b1 && isTail b2 then
          some (Char.ofNat ((b0.toNat % 16 * 64 + payload b1) * 64 + payload b2), 2)
        else none
      | [] => none
    else if 0xf0 ≤ b0 && b0 ≤ 0xf4 then
      match rest with
      | b2 :: b3 :: _ =>
        if mayFollow b0 b1 && isTail b2 && isTail b3 then
          some (Char.ofNat
            (((b0.toNat % 8 * 64 + payload b1) * 64 + payload b2) * 64 + payload b3), 3)
        else none
      | _ => none
    else none
  | [] => none

/-! ### Whole texts -/

/-- The characters of a byte string. -/
def decode : List UInt8 → List Char
  | [] => []
  | b :: rest =>
    if b < 0x80 then Char.ofNat b.toNat :: decode rest
    else
      match multibyte b rest with
      | some (c, k) => c :: decode (rest.drop k)
      | none => replacement :: decode rest
termination_by bs => bs.length
decreasing_by
  · simp
  · simp only [List.length_drop, List.length_cons]; omega
  · simp

/-- The bytes of a string. -/
def encode (s : String) : List UInt8 := s.toUTF8.toList

end ArithCompiler.Text
