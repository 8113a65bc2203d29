import ArithCompiler.Code.Machine
import ArithCompiler.Toolchain

/-!
# Engines

A function is executed by one of two engines: the built-in machine, or the
program that the external toolchain makes of it. Either way the result is an exit
status, which has eight bits.
-/

namespace ArithCompiler

inductive EngineError where
  | run (e : RunError)
  | toolchain (e : Toolchain.ToolchainError)
  | unknown (engine : String)
deriving DecidableEq, Repr

/-- The status that a result becomes. -/
def statusOf (x : Int32) : Nat := (x.toInt % 256).toNat

/-- The end of an execution. -/
structure Executed where
  outcome : Except EngineError Nat
  events : List Toolchain.Event
  files : FileTree

/-- Executes a function with the named engine (`SPEC_FULL.md` §16). -/
def execute (engine : String) (t : Toolchain) (h : Host) (style : PointerStyle) (f : Function) :
    Executed :=
  if engine = "interp" then
    ⟨(f.run.mapError .run).map statusOf, [], h.files⟩
  else if engine = "clang" then
    let r := t.execute h (f.render style)
    ⟨r.outcome.mapError .toolchain, r.events, r.files⟩
  else ⟨.error (.unknown engine), [], h.files⟩

end ArithCompiler
