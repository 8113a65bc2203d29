import ArithCompiler.Files
import ArithCompiler.Suite.Path

/-!
# Test cases

A test case (`SPEC_FULL.md` §16) is a source file with a file beside it that tells
what to expect: an exit status or an error. Cases are named by their path below the
directory of the suite, and are in the order of their names.
-/

namespace ArithCompiler.Suite

/-- Endings of the names of sources, expected statuses and expected errors. -/
def sourceEnding : String := ".calc"

def statusEnding : String := ".out"

def errorEnding : String := ".err"

structure Case where
  name : String
  source : String
  expected : String
  expectsError : Bool
deriving DecidableEq, Repr

/-! ### Discovery -/

inductive DiscoverError where
  | root (path : String) (e : FileError)
  | relative (directory target : String)
deriving DecidableEq, Repr

def DiscoverError.message : DiscoverError → String
  | .root path e => "lstat " ++ path ++ ": " ++ e.message
  | .relative directory target => "Rel: can't make " ++ target ++ " relative to " ++ directory

/-- All files at and below a path, as written paths. -/
def walk (files : FileTree) : Nat → String → NodePath → FileNode → List String
  | _, path, _, .file _ _ => [path]
  | 0, _, _, .directory => []
  | fuel + 1, path, p, .directory =>
    (files.names p).flatMap fun name =>
      match files.node? (p ++ [name]) with
      | some node => walk files fuel (Path.inside path name) (p ++ [name]) node
      | none => []

/-- The case of a file, if it is a source with something to expect. -/
def caseOf (files : FileTree) (directory path : String) : Except DiscoverError (Option Case) :=
  match Text.dropEnd? sourceEnding path with
  | none => .ok none
  | some base =>
    match Path.relative? directory base with
    | none => .error (.relative directory base)
    | some name =>
      if files.has (base ++ statusEnding) then
        .ok (some ⟨name, path, base ++ statusEnding, false⟩)
      else if files.has (base ++ errorEnding) then
        .ok (some ⟨name, path, base ++ errorEnding, true⟩)
      else .ok none

/-- The cases of some files. -/
def casesOf (files : FileTree) (directory : String) : List String → Except DiscoverError (List Case)
  | [] => .ok []
  | path :: rest =>
    match caseOf files directory path with
    | .error e => .error e
    | .ok c => (casesOf files directory rest).map (c.toList ++ ·)

/-- All cases below a directory. -/
def discover (files : FileTree) (directory : String) : Except DiscoverError (List Case) :=
  match files.find directory with
  | .error e => .error (.root directory e)
  | .ok (p, node) =>
    (casesOf files directory (walk files (files.nodes.length + 1) directory p node)).map
      fun cases => cases.mergeSort fun a b => a.name ≤ b.name

/-! ### Selection -/

/-- What an identifier names: without the ending of a source and without the
directory of the suite. -/
def identify (directory identifier : String) : String :=
  let bare := (Text.dropEnd? sourceEnding identifier).getD identifier
  (Text.dropStart? (directory ++ "/") bare).getD bare

/-- Whether a case answers to a name: its own, or its number. -/
def Case.answers (c : Case) (name : String) : Bool :=
  c.name = name || Text.startsWith c.name (name ++ "_")

/-- The name of a case that there is none of. -/
structure NotFound where
  name : String
deriving DecidableEq, Repr

def NotFound.message (e : NotFound) : String := "test not found: " ++ e.name

/-- The first case that an identifier names. -/
def select (cases : List Case) (directory identifier : String) : Except NotFound Case :=
  let name := identify directory identifier
  match cases.find? (·.answers name) with
  | some c => .ok c
  | none => .error ⟨name⟩

end ArithCompiler.Suite
