import ArithCompiler.Text.Printable

/-!
# Quoted text

Text between double quotes as messages show it: a quote or backslash gets a
backslash, seven controls have letters, printable characters stand for
themselves and all others are written by number in lower-case hexadecimal.
-/

namespace ArithCompiler.Text

/-- The last `width` hexadecimal digits of `n`. -/
def hex : Nat → Nat → List Char
  | 0, _ => []
  | width + 1, n => hex width (n / 16) ++ [Nat.digitChar (n % 16)]

theorem length_hex (width n : Nat) : (hex width n).length = width := by
  induction width generalizing n with
  | zero => rfl
  | succ width ih => simp [hex, ih]

/-- The letter of a control that has one. -/
def controlLetter (c : Char) : Option Char :=
  match c.toNat with
  | 0x07 => some 'a'
  | 0x08 => some 'b'
  | 0x0c => some 'f'
  | 0x0a => some 'n'
  | 0x0d => some 'r'
  | 0x09 => some 't'
  | 0x0b => some 'v'
  | _ => none

/-- One character inside quotes that are written `mark`. -/
def escape (mark c : Char) : List Char :=
  if c == mark || c == '\\' then ['\\', c]
  else if isPrintable c then [c]
  else
    match controlLetter c with
    | some l => ['\\', l]
    | none =>
      let n := c.toNat
      if n < 0x20 || n == 0x7f then '\\' :: 'x' :: hex 2 n
      else if n < 0x10000 then '\\' :: 'u' :: hex 4 n
      else '\\' :: 'U' :: hex 8 n

/-- Text between double quotes. -/
def quote (s : String) : String :=
  String.ofList ('"' :: s.toList.flatMap (escape '"') ++ ['"'])

/-- A character between single quotes. -/
def quoteChar (c : Char) : String :=
  String.ofList ('\x27' :: escape '\x27' c ++ ['\x27'])

end ArithCompiler.Text
