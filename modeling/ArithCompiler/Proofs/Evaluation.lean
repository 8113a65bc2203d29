import ArithCompiler.Proofs.Numerals
import ArithCompiler.Tree.Expr

/-!
# Evaluation of trees

The meaning of a program without any code: its statements are evaluated in order
against the values of the names assigned so far. Operands are evaluated from left
to right, and an assignment inside an operand is seen by all that is evaluated
after it. Words have 32 bits; arithmetic wraps and division is unsigned.
-/

namespace ArithCompiler

/-- The values of the names that have one. -/
abbrev Env := String → Option UInt32

namespace Env

def empty : Env := fun _ => none

def set (env : Env) (name : String) (x : UInt32) : Env :=
  fun n => if n = name then some x else env n

theorem set_set (env : Env) (name : String) (x y : UInt32) :
    (env.set name x).set name y = env.set name y := by
  funext n
  simp only [set]
  split <;> rfl

end Env

/-- Why a tree has no value. -/
inductive EvalFault where
  | incomplete
  | unassigned (name : String)
  | unknownOperator (n : Int)
  | divisionByZero
deriving DecidableEq, Repr

/-- The result of an operator on two words; none if it divides by zero. -/
def Operator.result? (op : Operator) (x y : UInt32) : Option UInt32 :=
  match op with
  | .add => some (x + y)
  | .sub => some (x - y)
  | .mul => some (x * y)
  | .div => if y = 0 then none else some (x / y)

/-- The result of an operator of a tree. -/
def OpCode.apply : OpCode → UInt32 → UInt32 → Except EvalFault UInt32
  | .unassigned n, _, _ => .error (.unknownOperator n)
  | .known op, x, y =>
    match op.result? x y with
    | some z => .ok z
    | none => .error .divisionByZero

namespace Expr

/-- The value of a tree and the values of all names after it. -/
def evaluate : Expr → Env → Except EvalFault (UInt32 × Env)
  | .hole, _ => .error .incomplete
  | .literal _ digits, env => .ok (UInt32.ofNat (Text.decimal digits), env)
  | .var _ name, env =>
    match env name with
    | some x => .ok (x, env)
    | none => .error (.unassigned name)
  | .binary _ left op right, env =>
    match left.evaluate env with
    | .error f => .error f
    | .ok (x, env₁) =>
      match right.evaluate env₁ with
      | .error f => .error f
      | .ok (y, env₂) =>
        match op.apply x y with
        | .error f => .error f
        | .ok z => .ok (z, env₂)
  | .assign _ name value, env =>
    match value.evaluate env with
    | .error f => .error f
    | .ok (x, env₁) => .ok (x, env₁.set name x)
  | .ret _ value, env => value.evaluate env
  | .group _ inner, env => inner.evaluate env

/-- The numerals of a tree. -/
def literals : Expr → List String
  | .hole => []
  | .literal _ digits => [digits]
  | .var _ _ => []
  | .binary _ left _ right => left.literals ++ right.literals
  | .assign _ _ value => value.literals
  | .ret _ value => value.literals
  | .group _ inner => inner.literals

end Expr

/-- The result of statements, `last` being the value of the one before them. A
return ends evaluation. -/
def evaluateAll (last : UInt32) : List Expr → Env → Except EvalFault UInt32
  | [], _ => .ok last
  | s :: rest, env =>
    match s.evaluate env with
    | .error f => .error f
    | .ok (x, env₁) => if s.isReturn then .ok x else evaluateAll x rest env₁

/-- The result of a program, read as a signed word. Without statements it is zero. -/
def Program.evaluate (p : Program) : Except EvalFault Int32 :=
  (evaluateAll 0 p .empty).map UInt32.toInt32

/-- The numerals of a program. -/
def Program.literals (p : Program) : List String := p.flatMap Expr.literals

end ArithCompiler
