import ArithCompiler.Compile
import ArithCompiler.Engine
import ArithCompiler.Suite.Case
import ArithCompiler.Text.Blank

/-!
# Running a suite

Each case is compiled and executed, and passes if its status or error is the
expected one. The report has a line for each case and a line for the result.
-/

namespace ArithCompiler.Suite

/-- How cases are executed. -/
structure Runner where
  engine : String
  toolchain : Toolchain
deriving DecidableEq, Repr

inductive ExecuteError where
  | compile (e : CompileError)
  | engine (e : EngineError)
deriving DecidableEq, Repr

def ExecuteError.message : ExecuteError → String
  | .compile e => "compilation error: " ++ e.message
  | .engine (.run e) => "runtime error: " ++ e.message
  | .engine (.toolchain e) => "runtime error: " ++ e.message
  | .engine (.unknown name) => "unknown engine " ++ Text.quote name

/-- Compiles and executes a source with the default options. -/
def Runner.execute (r : Runner) (h : Host) (source : List UInt8) :
    Except ExecuteError Nat × FileTree :=
  match (compile ⟨"", .untyped, .none⟩ source).2 with
  | .error e => (.error (.compile e), h.files)
  | .ok c =>
    let e := ArithCompiler.execute r.engine r.toolchain h .untyped c.function
    (e.outcome.mapError .engine, e.files)

/-! ### Verdicts -/

inductive Verdict where
  | pass
  | fail (reason : String)
deriving DecidableEq, Repr

/-- Compares an outcome with what was expected of a case. -/
def judge (c : Case) (want : String) : Except ExecuteError Nat → Verdict
  | .ok code =>
    if c.expectsError then
      .fail ("expected error containing " ++ Text.quote want ++ ", program exited with " ++
        toString code)
    else
      match Text.readSigned want with
      | .error _ => .fail ("bad expected exit status " ++ Text.quote want)
      | .ok n =>
        if (code : Int) = n then .pass
        else
          .fail ("exit status mismatch: expected " ++ toString n ++ ", got " ++ toString code)
  | .error e =>
    if c.expectsError then
      if Text.contains e.message want then .pass
      else
        .fail ("error mismatch:\nExpected: " ++ Text.quote want ++ "\nActual:   " ++
          Text.quote e.message)
    else .fail e.message

/-- Runs one case. -/
def Runner.runCase (r : Runner) (h : Host) (c : Case) : Verdict × FileTree :=
  match h.files.read c.source with
  | .error e => (.fail ("error reading source: " ++ readFailure c.source e), h.files)
  | .ok source =>
    match h.files.read c.expected with
    | .error e => (.fail ("error reading expected output: " ++ readFailure c.expected e), h.files)
    | .ok expected =>
      let want := String.ofList (Text.trim (Text.decode expected))
      let (outcome, files) := r.execute h source
      (judge c want outcome, files)

/-- Runs cases in order. -/
def Runner.runCases (r : Runner) (h : Host) : List Case → List (Case × Verdict)
  | [] => []
  | c :: rest =>
    let (v, files) := r.runCase h c
    (c, v) :: r.runCases { h with files := files } rest

/-! ### Reports -/

def caseLine (c : Case) (v : Verdict) : String :=
  "Running test " ++ c.name ++ "... " ++
    (match v with
      | .pass => "PASS\n"
      | .fail reason => "FAIL - " ++ reason ++ "\n")

def failures (results : List (Case × Verdict)) : Nat :=
  results.countP fun r => r.2 ≠ .pass

def report (results : List (Case × Verdict)) : String :=
  let failed := failures results
  let passed := results.length - failed
  String.join (results.map fun (c, v) => caseLine c v) ++
    (if failed = 0 then "Test Results: " ++ toString passed ++ " passed. All good!\n"
    else "Test Results: " ++ toString passed ++ " passed, " ++ toString failed ++ " failed\n")

end ArithCompiler.Suite
