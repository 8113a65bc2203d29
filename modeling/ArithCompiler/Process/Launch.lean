import ArithCompiler.Process.Tool
import ArithCompiler.Text.Quoted

/-!
# Starting programs

What starting a program takes and gives, and why it may fail. How it is done is
passed to the code that runs scripts, since scripts start other scripts.
-/

namespace ArithCompiler.Process

/-- Why a program did not start. -/
inductive StartError where
  /-- No program of that name is known. -/
  | unknown (name : String)
  | missing (path : String)
  | notDirectory (path : String)
  | denied (path : String)
  | badFormat (path : String)
deriving DecidableEq, Repr

def StartError.message : StartError → String
  | .unknown name => "exec: " ++ Text.quote name ++ ": executable file not found in $PATH"
  | .missing path => "fork/exec " ++ path ++ ": no such file or directory"
  | .notDirectory path => "fork/exec " ++ path ++ ": not a directory"
  | .denied path => "fork/exec " ++ path ++ ": permission denied"
  | .badFormat path => "fork/exec " ++ path ++ ": exec format error"

/-- How a script runs another program: on files, with variables and input. -/
abbrev Launch :=
  FileTree → List (String × String) → List UInt8 → String → List String →
    Except StartError Finished

/-- Runs a program; a file that says nothing of how to run it is a script. -/
def launchAny (launch : Launch) : Launch := fun files environment input name args =>
  match launch files environment input name args with
  | .error (.badFormat path) => launch files environment input "sh" (path :: args)
  | result => result

end ArithCompiler.Process
