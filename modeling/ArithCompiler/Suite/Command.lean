import ArithCompiler.Cli.Run
import ArithCompiler.Suite.Run

/-!
# The command that runs a suite

It runs the cases of a directory, or only the one that an operand names.
-/

namespace ArithCompiler.Suite

def directoryFlag : Cli.FlagSpec := ⟨"dir", some 'd', "testdata/programs", false⟩

def engineFlag : Cli.FlagSpec := ⟨"engine", some 'e', "clang", false⟩

def flags : List Cli.FlagSpec := [directoryFlag, engineFlag, Cli.ccFlag]

/-- The announcement of how many cases there are. -/
def foundLine (count : Nat) : String :=
  if count = 1 then "Found 1 test\n" else "Found " ++ toString count ++ " tests\n"

/-- Runs some cases after an announcement. -/
def runAll (h : Host) (r : Runner) (announcement : String) (cases : List Case) : Cli.Outcome :=
  let results := r.runCases h cases
  ⟨if failures results > 0 then 1 else 0, announcement ++ report results, ""⟩

/-- Runs a command line. -/
def runArgs (h : Host) (args : List String) : Cli.Outcome :=
  match Cli.parseFlags flags args with
  | .error e => ⟨2, "", e.message ++ "\n"⟩
  | .ok p =>
    let directory := p.value directoryFlag
    let r : Runner := ⟨p.value engineFlag, ⟨p.value Cli.ccFlag, [], false⟩⟩
    match discover h.files directory with
    | .error e => ⟨1, "", "Error discovering tests: " ++ e.message ++ "\n"⟩
    | .ok cases =>
      if cases = [] then ⟨0, "No tests found in " ++ directory ++ "\n", ""⟩
      else
        match p.operands with
        | [] => runAll h r (foundLine cases.length) cases
        | identifier :: _ =>
          match select cases directory identifier with
          | .error e => ⟨1, "", "Error: " ++ e.message ++ "\n"⟩
          | .ok c => runAll h r ("Running specific test: " ++ c.name ++ "\n") [c]

end ArithCompiler.Suite
