import ArithCompiler.Process.Script

/-!
# Arithmetic in scripts

Expressions over 64-bit numbers and parameters, with the operators of the shell.
Binary operators have levels from 0 (`||`) to 9 (`*`), and group to the left.
-/

namespace ArithCompiler.Process.Arithmetic

inductive Fault where
  | divisionByZero
  | noPrimary
  | noEnd
deriving DecidableEq, Repr

def Fault.message (expression : String) : Fault → String
  | .divisionByZero => "arithmetic expression: division by zero: \"" ++ expression ++ "\""
  | .noPrimary => "arithmetic expression: expecting primary: \"" ++ expression ++ "\""
  | .noEnd => "arithmetic expression: expecting EOF: \"" ++ expression ++ "\""

/-- Numbers have 64 bits. -/
def wrap (n : Int) : Int := n.bmod UInt64.size

def isGap (c : Char) : Bool := c == ' ' || c == '\t' || c == '\n'

/-! ### Numbers -/

def digit (c : Char) : Nat :=
  if c.isDigit then c.toNat - 48 else (c.toLower.toNat - 97) + 10

def ofDigits (base : Nat) (cs : List Char) : Int :=
  wrap (cs.foldl (fun n c => n * base + digit c) 0 : Nat)

def isHexDigit (c : Char) : Bool := c.isDigit || ('a' ≤ c.toLower && c.toLower ≤ 'f')

/-- The number at the front, in base ten, eight or sixteen, and the rest. -/
def number (cs : List Char) : Int × List Char :=
  match cs with
  | '0' :: x :: rest =>
    if (x == 'x' || x == 'X') && rest.head?.any isHexDigit then
      (ofDigits 16 (rest.takeWhile isHexDigit), rest.dropWhile isHexDigit)
    else
      let isOctal (c : Char) : Bool := '0' ≤ c && c ≤ '7'
      (ofDigits 8 ((x :: rest).takeWhile isOctal), (x :: rest).dropWhile isOctal)
  | _ => (ofDigits 10 (cs.takeWhile Char.isDigit), cs.dropWhile Char.isDigit)

/-- The number that a value stands for; a value that is none stands for zero. -/
def valueOf (s : String) : Int :=
  match s.toList.dropWhile isGap with
  | '-' :: rest => wrap (-(number rest).1)
  | '+' :: rest => (number rest).1
  | cs => (number cs).1

/-! ### Operators -/

inductive Binary where
  | or
  | and
  | bitOr
  | bitXor
  | bitAnd
  | equal
  | unequal
  | atMost
  | atLeast
  | less
  | greater
  | shiftLeft
  | shiftRight
  | plus
  | minus
  | times
  | divide
  | remainder
deriving DecidableEq, Repr

/-- The binary operator at the front, its level and its length. -/
def binary? : List Char → Option (Binary × Nat × Nat)
  | '|' :: '|' :: _ => some (.or, 0, 2)
  | '&' :: '&' :: _ => some (.and, 1, 2)
  | '|' :: _ => some (.bitOr, 2, 1)
  | '^' :: _ => some (.bitXor, 3, 1)
  | '&' :: _ => some (.bitAnd, 4, 1)
  | '=' :: '=' :: _ => some (.equal, 5, 2)
  | '!' :: '=' :: _ => some (.unequal, 5, 2)
  | '<' :: '<' :: _ => some (.shiftLeft, 7, 2)
  | '>' :: '>' :: _ => some (.shiftRight, 7, 2)
  | '<' :: '=' :: _ => some (.atMost, 6, 2)
  | '>' :: '=' :: _ => some (.atLeast, 6, 2)
  | '<' :: _ => some (.less, 6, 1)
  | '>' :: _ => some (.greater, 6, 1)
  | '+' :: _ => some (.plus, 8, 1)
  | '-' :: _ => some (.minus, 8, 1)
  | '*' :: _ => some (.times, 9, 1)
  | '/' :: _ => some (.divide, 9, 1)
  | '%' :: _ => some (.remainder, 9, 1)
  | _ => none

def truth (b : Bool) : Int := if b then 1 else 0

/-- The bits of a number. -/
def bits (n : Int) : BitVec 64 := BitVec.ofInt 64 n

def Binary.apply (a b : Int) : Binary → Except Fault Int
  | .or => .ok (truth (a ≠ 0 || b ≠ 0))
  | .and => .ok (truth (a ≠ 0 && b ≠ 0))
  | .bitOr => .ok (bits a ||| bits b).toInt
  | .bitXor => .ok (bits a ^^^ bits b).toInt
  | .bitAnd => .ok (bits a &&& bits b).toInt
  | .equal => .ok (truth (a = b))
  | .unequal => .ok (truth (a ≠ b))
  | .atMost => .ok (truth (a ≤ b))
  | .atLeast => .ok (truth (a ≥ b))
  | .less => .ok (truth (a < b))
  | .greater => .ok (truth (a > b))
  | .shiftLeft => .ok (bits a <<< (b % 64).toNat).toInt
  | .shiftRight => .ok ((bits a).sshiftRight (b % 64).toNat).toInt
  | .plus => .ok (wrap (a + b))
  | .minus => .ok (wrap (a - b))
  | .times => .ok (wrap (a * b))
  | .divide => if b = 0 then .error .divisionByZero else .ok (wrap (a.tdiv b))
  | .remainder => if b = 0 then .error .divisionByZero else .ok (a.tmod b)

/-! ### Expressions -/

/-- A value and the rest of the text. -/
abbrev Evaluated := Except Fault (Int × List Char)

mutual

/-- A number, a parameter, or an expression in parentheses, behind signs. -/
def primary (lookup : String → String) (fuel : Nat) (cs : List Char) : Evaluated :=
  match fuel with
  | 0 => .error .noPrimary
  | fuel + 1 =>
    let signed (f : Int → Int) (rest : List Char) : Evaluated := do
      let (n, rest) ← primary lookup fuel rest
      pure (f n, rest)
    match cs.dropWhile isGap with
    | '-' :: rest => signed (fun n => wrap (-n)) rest
    | '+' :: rest => signed id rest
    | '!' :: rest => signed (fun n => truth (n = 0)) rest
    | '~' :: rest => signed (fun n => -n - 1) rest
    | '(' :: rest => do
      let (n, rest) ← choice lookup fuel rest
      match rest.dropWhile isGap with
      | ')' :: rest => pure (n, rest)
      | _ => .error .noPrimary
    | c :: rest =>
      if c.isDigit then .ok (number (c :: rest))
      else if isNameStart c then
        let name := (c :: rest).takeWhile isNameChar
        .ok (valueOf (lookup (String.ofList name)), (c :: rest).drop name.length)
      else .error .noPrimary
    | [] => .error .noPrimary
termination_by structural fuel

/-- Goes on from a value with operators of some level or above. -/
def climb (lookup : String → String) (fuel : Nat) (level : Nat) (left : Int) (cs : List Char) :
    Evaluated :=
  match fuel with
  | 0 => .ok (left, cs)
  | fuel + 1 =>
    match binary? (cs.dropWhile isGap) with
    | none => .ok (left, cs)
    | some (op, opLevel, size) =>
      if opLevel < level then .ok (left, cs)
      else do
        let (right, rest) ← primary lookup fuel ((cs.dropWhile isGap).drop size)
        let (right, rest) ← climb lookup fuel (opLevel + 1) right rest
        let value ← match op.apply left right with
          | .error e => .error e
          | .ok n => .ok n
        climb lookup fuel level value rest
termination_by structural fuel

/-- An expression, or a choice between two by a third. -/
def choice (lookup : String → String) (fuel : Nat) (cs : List Char) : Evaluated :=
  match fuel with
  | 0 => .error .noPrimary
  | fuel + 1 => do
    let (n, rest) ← primary lookup fuel cs
    let (n, rest) ← climb lookup fuel 0 n rest
    match rest.dropWhile isGap with
    | '?' :: rest =>
      let (yes, rest) ← choice lookup fuel rest
      match rest.dropWhile isGap with
      | ':' :: rest =>
        let (no, rest) ← choice lookup fuel rest
        pure (if n ≠ 0 then yes else no, rest)
      | _ => .error .noPrimary
    | _ => pure (n, rest)
termination_by structural fuel

end

/-- The value of an expression; one without any text is zero. -/
def evaluate (lookup : String → String) (expression : String) : Except Fault Int := do
  let cs := expression.toList
  if cs.all isGap then pure 0
  else
    let (n, rest) ← choice lookup (4 * cs.length + 8) cs
    if rest.all isGap then pure n else .error .noEnd

end ArithCompiler.Process.Arithmetic
