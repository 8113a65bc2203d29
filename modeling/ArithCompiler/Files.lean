import ArithCompiler.Text.Pieces
import ArithCompiler.Text.Utf8

/-!
# A tree of files

The files that a run of the program sees: those below its working directory, and
some by absolute path. A written path is resolved name by name, as far as there
are directories; a path that leads above the working directory leads nowhere.
-/

namespace ArithCompiler

/-- Why a path does not lead to what is wanted. -/
inductive FileError where
  | missing
  | isDirectory
  | notDirectory
deriving DecidableEq, Repr

def FileError.message : FileError → String
  | .missing => "no such file or directory"
  | .isDirectory => "is a directory"
  | .notDirectory => "not a directory"

inductive FileNode where
  | file (content : List UInt8) (executable : Bool)
  | directory
deriving DecidableEq, Repr

/-- The names on the way from the working directory. Absolute paths start with the
name `/`, which nothing else has. -/
abbrev NodePath := List String

/-- Nodes by their path. The working directory itself is not listed. -/
structure FileTree where
  nodes : List (NodePath × FileNode)
deriving DecidableEq, Repr

namespace FileTree

/-- The name at the front of absolute paths. -/
def topName : String := "/"

/-- The nodes that every host has. -/
def base : FileTree :=
  ⟨[([topName], .directory), ([topName, "tmp"], .directory), ([topName, "dev"], .directory),
    ([topName, "dev", "null"], .file [] false)]⟩

def node? (t : FileTree) (p : NodePath) : Option FileNode :=
  if p = [] then some .directory else t.nodes.lookup p

/-! ### Resolving -/

/-- Goes down from a path. -/
def descend (t : FileTree) (here : NodePath) : List String → Except FileError NodePath
  | [] => .ok here
  | name :: rest =>
    match t.node? here with
    | none => .error .missing
    | some (.file _ _) => .error .notDirectory
    | some .directory =>
      if name = "" || name = "." then t.descend here rest
      else if name = ".." then
        if here = [] then .error .missing
        else if here = [topName] then t.descend here rest
        else t.descend here.dropLast rest
      else t.descend (here ++ [name]) rest

/-- The place that a written path leads to, whether or not there is a node. -/
def resolve (t : FileTree) (path : String) : Except FileError NodePath :=
  if path = "" then .error .missing
  else t.descend (if Text.startsWith path "/" then [topName] else []) (Text.split '/' path)

/-- The node that a written path leads to. -/
def find (t : FileTree) (path : String) : Except FileError (NodePath × FileNode) :=
  match t.resolve path with
  | .error e => .error e
  | .ok p =>
    match t.node? p with
    | none => .error .missing
    | some n => .ok (p, n)

def has (t : FileTree) (path : String) : Bool :=
  match t.find path with
  | .ok _ => true
  | .error _ => false

/-- The content of a file. -/
def read (t : FileTree) (path : String) : Except FileError (List UInt8) :=
  match t.find path with
  | .error e => .error e
  | .ok (_, .directory) => .error .isDirectory
  | .ok (_, .file content _) => .ok content

/-! ### Changing -/

/-- Sets the node of a path, in its place or at the end. -/
def setNode (t : FileTree) (p : NodePath) (n : FileNode) : FileTree :=
  if (t.nodes.lookup p).isSome then
    ⟨t.nodes.map fun e => if e.1 = p then (p, n) else e⟩
  else ⟨t.nodes ++ [(p, n)]⟩

/-- Writes a file. A new one cannot be executed. -/
def write (t : FileTree) (path : String) (content : List UInt8) : Except FileError FileTree :=
  match t.resolve path with
  | .error e => .error e
  | .ok p =>
    match t.node? p with
    | some .directory => .error .isDirectory
    | some (.file _ executable) => .ok (t.setNode p (.file content executable))
    | none =>
      match t.node? p.dropLast with
      | some .directory => .ok (t.setNode p (.file content false))
      | some (.file _ _) => .error .notDirectory
      | none => .error .missing

/-- Sets whether a file can be executed. -/
def setExecutable (t : FileTree) (path : String) (executable : Bool) : Except FileError FileTree :=
  match t.find path with
  | .error e => .error e
  | .ok (_, .directory) => .ok t
  | .ok (p, .file content _) => .ok (t.setNode p (.file content executable))

def remove (t : FileTree) (p : NodePath) : FileTree :=
  ⟨t.nodes.filter fun e => (Text.dropLead? p e.1).isNone⟩

/-! ### Directories -/

/-- Makes a directory with all that it is in. -/
def makeDirectory (t : FileTree) (p : NodePath) : FileTree :=
  (List.range p.length).foldl (fun t i =>
    let q := p.take (i + 1)
    if (t.node? q).isSome then t else t.setNode q .directory) t

/-- The names in a directory, in order. -/
def names (t : FileTree) (p : NodePath) : List String :=
  (t.nodes.filterMap fun e =>
    match Text.dropLead? p e.1 with
    | some [name] => if name = topName then none else some name
    | _ => none).mergeSort

/-- A tree of executable files by written path; a path that ends in a slash is a
directory. -/
def ofTexts (files : List (String × String)) : FileTree :=
  files.foldl (fun t (path, text) =>
    let parts := (Text.split '/' path).filter fun n => n ≠ "" && n ≠ "."
    if (Text.dropEnd? "/" path).isSome then t.makeDirectory parts
    else
      (t.makeDirectory parts.dropLast).setNode parts (.file (Text.encode text) true)) base

end FileTree

/-- The text of a failure to read a file. -/
def readFailure (path : String) (e : FileError) : String :=
  (if e = .isDirectory then "read " else "open ") ++ path ++ ": " ++ e.message

end ArithCompiler
