import ArithCompiler.Files
import ArithCompiler.Process.Format

/-!
# Conditions

Tests of texts, numbers and files, joined by `-a`, `-o`, `!` and parentheses. What
is no operator in its place is a text, which holds if it is not empty.
-/

namespace ArithCompiler.Process.Condition

/-- Why a condition has no truth. -/
inductive Fault where
  | unexpected (operand : String)
  | noArgument (operator : String)
  | noNumber (text : String)
  | noBracket
  | openParenthesis
deriving DecidableEq, Repr

def Fault.message : Fault → String
  | .unexpected w => w ++ ": unexpected operator"
  | .noArgument w => w ++ ": argument expected"
  | .noNumber s => "Illegal number: " ++ s
  | .noBracket => "missing ]"
  | .openParenthesis => "closing paren expected"

/-! ### Operators -/

def unaryOperators : List String :=
  ["-n", "-z", "-e", "-f", "-d", "-r", "-w", "-x", "-s", "-b", "-c", "-g", "-h", "-k", "-L", "-O",
    "-G", "-p", "-S", "-t", "-u"]

def binaryOperators : List String :=
  ["=", "!=", "<", ">", "-eq", "-ne", "-lt", "-le", "-gt", "-ge"]

/-- The number that a text stands for, with blanks on both sides. -/
def number (s : String) : Except Fault Int :=
  let cs := s.toList.dropWhile Arithmetic.isGap
  let (negative, cs) := match cs with
    | '-' :: rest => (true, rest)
    | '+' :: rest => (false, rest)
    | _ => (false, cs)
  let digits := cs.takeWhile Char.isDigit
  if digits.isEmpty || !(cs.drop digits.length).all Arithmetic.isGap then .error (.noNumber s)
  else
    let n : Int := (digits.foldl (fun n c => n * 10 + (c.toNat - 48)) 0 : Nat)
    .ok (if negative then -n else n)

/-- What an operator with one operand says. -/
def unary (files : FileTree) (op s : String) : Bool :=
  let node? := match files.find s with
    | .ok (_, n) => some n
    | .error _ => none
  match op, node? with
  | "-n", _ => s ≠ ""
  | "-z", _ => s = ""
  | "-e", n | "-r", n | "-w", n | "-O", n | "-G", n => n.isSome
  | "-f", some (.file _ _) => true
  | "-d", some .directory => true
  | "-x", some (.file _ executable) => executable
  | "-x", some .directory => true
  | "-s", some (.file content _) => !content.isEmpty
  | "-s", some .directory => true
  | _, _ => false

def binary (a op b : String) : Except Fault Bool :=
  match op with
  | "=" => .ok (a = b)
  | "!=" => .ok (a ≠ b)
  | "<" => .ok (a < b)
  | ">" => .ok (b < a)
  | _ => do
    let m ← number a
    let n ← number b
    match op with
    | "-eq" => pure (m = n)
    | "-ne" => pure (m ≠ n)
    | "-lt" => pure (m < n)
    | "-le" => pure (m ≤ n)
    | "-gt" => pure (m > n)
    | _ => pure (m ≥ n)

/-- Whether an operator with one operand is a text in its place. -/
def isOperand (after : List String) : Bool :=
  match after with
  | [] => true
  | [_] => false
  | s :: _ => s ∈ binaryOperators

/-! ### Expressions -/

/-- A truth, the last word used, and the words left. -/
abbrev Judged := Except Fault (Bool × String × List String)

mutual

def primary (files : FileTree) (fuel : Nat) (last : String) (words : List String) : Judged :=
  match fuel, words with
  | 0, _ => .error (.noArgument last)
  | _, [] => .error (.noArgument last)
  | fuel + 1, w :: after =>
    match after with
    | op :: rest =>
      if op ∈ binaryOperators && !(w = "!" && rest.length > 1) then
        match rest with
        | [] => .error (.noArgument op)
        | b :: rest => (binary w op b).map fun t => (t, b, rest)
      else if w = "!" then (primary files fuel w after).map fun (t, rest) => (!t, rest)
      else if w = "(" then
        match either files fuel w after with
        | .error e => .error e
        | .ok (t, _, ")" :: rest) => .ok (t, ")", rest)
        | .ok _ => .error .openParenthesis
      else if w ∈ unaryOperators && !isOperand after then .ok (unary files w op, op, rest)
      else .ok (w ≠ "", w, after)
    | [] => .ok (w ≠ "", w, [])
termination_by structural fuel

def both (files : FileTree) (fuel : Nat) (last : String) (words : List String) : Judged :=
  match fuel with
  | 0 => .error (.noArgument last)
  | fuel + 1 =>
    match primary files fuel last words with
    | .ok (t, _, "-a" :: rest) =>
      (both files fuel "-a" rest).map fun (u, rest) => (t && u, rest)
    | judged => judged
termination_by structural fuel

def either (files : FileTree) (fuel : Nat) (last : String) (words : List String) : Judged :=
  match fuel with
  | 0 => .error (.noArgument last)
  | fuel + 1 =>
    match both files fuel last words with
    | .ok (t, _, "-o" :: rest) =>
      (either files fuel "-o" rest).map fun (u, rest) => (t || u, rest)
    | judged => judged
termination_by structural fuel

end

/-- The truth of a condition; one without words does not hold. -/
def holds (files : FileTree) (words : List String) : Except Fault Bool :=
  if words.isEmpty then .ok false
  else
    match either files (4 * words.length + 4) "" words with
    | .error e => .error e
    | .ok (t, _, []) => .ok t
    | .ok (_, last, _ :: _) => .error (.unexpected last)

/-- Says the truth of a condition by a status. -/
def said (files : FileTree) (words : List String) : Said :=
  match holds files words with
  | .ok t => ⟨if t then 0 else 1, [], []⟩
  | .error e => ⟨2, [e.message], []⟩

/-- A condition that a bracket closes. -/
def saidInBrackets (files : FileTree) (words : List String) : Said :=
  if words.getLast? = some "]" then said files words.dropLast
  else ⟨2, [Fault.noBracket.message], []⟩

end ArithCompiler.Process.Condition
