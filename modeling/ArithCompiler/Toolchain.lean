import ArithCompiler.Log.Record
import ArithCompiler.Process.Start

/-!
# The external toolchain

Code is made into a program by an external compiler, which gets the text of the
code in a file of a fresh build directory and leaves the program there. The
program is then run for its status. The build directory is removed afterwards
unless it is to be kept.
-/

namespace ArithCompiler

/-- What a run of the program finds around it. -/
structure Host where
  files : FileTree
  environment : List (String × String)
  /-- The working directory, as scripts see it. -/
  workDirectory : String
  /-- The name of the build directory. -/
  buildDirectory : String
deriving DecidableEq, Repr

/-- Runs a program to its end. -/
def Host.start (h : Host) (name : String) (args : List String) :
    Except Process.StartError Process.Finished :=
  Process.start Process.depthLimit h.files (("PWD", h.workDirectory) :: h.environment) [] name args

structure Toolchain where
  /-- The compiler; if empty, the default one. -/
  cc : String
  /-- Arguments in front of all others. -/
  flags : List String
  /-- Whether the build directory is kept. -/
  keep : Bool
deriving DecidableEq, Repr

namespace Toolchain

def defaultCc : String := "clang"

def compiler (t : Toolchain) : String := if t.cc = "" then defaultCc else t.cc

/-! ### Events and errors -/

inductive Event where
  | compiling (cc : String) (args : List String)
  | keeping (directory : String)
deriving DecidableEq, Repr

/-- The record of an event. -/
def Event.record : Event → Log.Record
  | .compiling cc args =>
    ⟨.debug, "toolchain", "compiling IR", [("cc", .text cc), ("args", .texts args)]⟩
  | .keeping directory =>
    ⟨.info, "toolchain", "keeping intermediate files", [("dir", .text directory)]⟩

/-- Why the compiler gave no program. -/
inductive BuildFault where
  | notStarted (e : Process.StartError)
  | status (n : Nat)
deriving DecidableEq, Repr

def BuildFault.message : BuildFault → String
  | .notStarted e => e.message
  | .status n => "exit status " ++ toString n

inductive ToolchainError where
  | build (cc output : String) (fault : BuildFault)
  | run (program : String) (e : Process.StartError)
deriving DecidableEq, Repr

def ToolchainError.message : ToolchainError → String
  | .build cc output fault => cc ++ " failed: " ++ output ++ ": " ++ fault.message
  | .run program e => "running " ++ program ++ ": " ++ e.message

/-! ### Building and running -/

/-- The end of a run: the status of the program, what happened, and the files. -/
structure Result where
  outcome : Except ToolchainError Nat
  events : List Event
  files : FileTree

/-- Runs a program for its status. -/
def run (h : Host) (program : String) : Except ToolchainError (Nat × FileTree) :=
  match h.start program [] with
  | .error e => .error (.run program e)
  | .ok f => .ok (f.status, f.files)

/-- Removes the build directory, or says that it is kept. -/
def cleanUp (t : Toolchain) (h : Host) (files : FileTree) : List Event × FileTree :=
  if t.keep then ([.keeping h.buildDirectory], files)
  else ([], files.remove [h.buildDirectory])

/-- Compiles; gives the output and fault of a compiler that fails. -/
def build (t : Toolchain) (h : Host) (args : List String) (files : FileTree) :
    Except (String × BuildFault) FileTree × FileTree :=
  match { h with files := files }.start t.compiler args with
  | .error e => (.error ("", .notStarted e), files)
  | .ok f =>
    if f.status = 0 then (.ok f.files, f.files) else (.error (f.text, .status f.status), f.files)

/-- Builds the program of some code and runs it (`SPEC_FULL.md` §6, Collaborator contract). -/
def execute (t : Toolchain) (h : Host) (code : String) : Result :=
  let program := h.buildDirectory ++ "/program"
  let source := h.buildDirectory ++ "/program.ll"
  let files := (h.files.makeDirectory [h.buildDirectory]).setNode [h.buildDirectory, "program.ll"]
    (.file (Text.encode code) false)
  let args := t.flags ++ ["-o", program, source]
  let begun := Event.compiling t.compiler args
  match t.build h args files with
  | (.error (output, fault), files) =>
    let (ended, files) := t.cleanUp h files
    ⟨.error (.build t.compiler output fault), begun :: ended, files⟩
  | (.ok _, files) =>
    let outcome := run { h with files := files } program
    let files := match outcome with
      | .ok (_, files) => files
      | .error _ => files
    let (ended, files) := t.cleanUp h files
    ⟨outcome.map (·.1), begun :: ended, files⟩

end Toolchain

end ArithCompiler
