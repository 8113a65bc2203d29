import ArithCompiler.Config.Json
import ArithCompiler.Config.Yaml.Document
import ArithCompiler.Files

/-!
# Where settings come from

A setting is looked for in layers: a flag that was given, the environment, the
configuration file, the defaults, and last the default of a flag bound to it. A
value that one layer gives to a section hides all that deeper layers have inside
the section.
-/

namespace ArithCompiler.Config

/-- A flag that stands for a setting. -/
structure BoundFlag where
  key : String
  /-- Whether it was given. -/
  changed : Bool
  value : Setting

structure Sources where
  flags : List BoundFlag
  environment : List (String × String)
  file : Table

/-- The settings that hold without any source (`SPEC_FULL.md` §13). -/
def defaults : Table :=
  [("log", .table [("level", .text "warn"), ("format", .text "console")]),
    ("ir", .table [("function", .text "main"), ("pointers", .text "opaque")]),
    ("dump", .table [("tree", .text "none")]),
    ("toolchain", .table [("cc", .text "clang"), ("flags", .list []), ("keep", .bool false)])]

/-! ### Layers -/

/-- What a layer says about a key. -/
inductive Look where
  | found (s : Setting)
  /-- A section that the key is in has a value of its own. -/
  | hidden
  | absent

namespace Look

/-- The answer of the first layer that has one. -/
def first : List Look → Setting
  | [] => .null
  | .found s :: _ => s
  | .hidden :: _ => .null
  | .absent :: rest => first rest

/-- A setting that is there, or else whether it is hidden. -/
def ofSetting (s : Setting) (isHidden : Bool) : Look :=
  if !s.isNull then .found s else if isHidden then .hidden else .absent

end Look

/-- The name of the environment variable of a key. -/
def variableName (key : String) : String :=
  (Text.upper ("CALCC_" ++ key)).map fun c => if c = '.' then '_' else c

namespace Sources

def flag? (s : Sources) (key : String) : Option BoundFlag := s.flags.find? (·.key = key)

/-- The value of a variable; an empty one counts as not set. -/
def envValue? (s : Sources) (key : String) : Option String :=
  match s.environment.lookup (variableName key) with
  | some v => if v = "" then none else some v
  | none => none

/-- A setting in a file, where keys may hold dots: longer keys come first. -/
def inFile (fuel : Nat) (t : Table) (path : List String) : Setting :=
  match fuel with
  | 0 => .null
  | fuel + 1 =>
    let lengths := (List.range path.length).reverse.map (· + 1)
    let values := lengths.map fun i =>
      match t.get (Text.lower (dotted (path.take i))) with
      | .table inner => if i = path.length then .table inner else inFile fuel inner (path.drop i)
      | s => if i = path.length then s else .null
    (values.find? fun v => !v.isNull).getD .null

/-- Whether a value that is no table stands on the way to a path. -/
def isBlocked (t : Table) (path : List String) : Bool :=
  ((parents path).map fun p => Table.atPath t p).any fun s =>
    match s with
    | .table _ | .null => false
    | _ => true

def givenFlag (s : Sources) (key : String) : Look :=
  match s.flag? key with
  | some f => if f.changed then .found f.value else hiddenByFlag
  | none => hiddenByFlag
where
  hiddenByFlag : Look :=
    if (parents (keyPath key)).any fun p => (s.flag? (dotted p)).isSome then .hidden else .absent

def inEnvironment (s : Sources) (key : String) : Look :=
  match s.envValue? key with
  | some v => .found (.text v)
  | none =>
    if (parents (keyPath key)).any fun p => (s.envValue? (dotted p)).isSome then .hidden
    else .absent

def layers (s : Sources) (key : String) : List Look :=
  let path := keyPath key
  [s.givenFlag key, s.inEnvironment key,
    .ofSetting (inFile path.length s.file path) (isBlocked s.file path),
    .ofSetting (Table.atPath defaults path) (isBlocked defaults path),
    match s.flag? key with
    | some f => .found f.value
    | none => .absent]

/-- The setting of a key; null if there is none. -/
def find (s : Sources) (key : String) : Setting := Look.first (s.layers key)

/-! ### All settings -/

def addKey (keys : List String) (key : String) : List String :=
  if key ∈ keys then keys else keys ++ [key]

mutual

/-- Adds the keys of all values inside a section that is no key itself. -/
def addSection (keys : List String) (name : String) : Setting → List String
  | .table entries =>
    if name = "" then addEntries keys "" entries
    else if name ∈ keys then keys
    else addEntries keys (name ++ ".") entries
  | _ => addKey keys (Text.lower name)

def addEntries (keys : List String) (lead : String) : List (String × Setting) → List String
  | [] => keys
  | (k, s) :: rest => addEntries (addSection keys (lead ++ k) s) lead rest

end

/-- All keys that have a value. -/
def keys (s : Sources) : List String :=
  let bound := s.flags.foldl (fun keys f =>
    if (parents (keyPath f.key)).any fun p => dotted p ∈ keys then keys else addKey keys f.key) []
  addEntries (addEntries bound "" s.file) "" defaults

/-- All settings in one table. -/
def settings (s : Sources) : Table :=
  s.keys.foldl (fun t key =>
    let v := s.find key
    if v.isNull then t else Table.setPath v (keyPath key) t) []

end Sources

/-! ### Reading the file -/

inductive SourceError where
  | noFlag (flag key : String)
  | unsupported (path extension : String)
  | unreadable (path : String) (e : FileError)
  | noReader (path extension : String)
  | malformed (path reason : String)
deriving DecidableEq, Repr

def SourceError.message : SourceError → String
  | .noFlag flag key => "no flag " ++ Text.quote flag ++ " to bind to " ++ key
  | .unsupported path ext =>
    "reading config file " ++ path ++ ": Unsupported Config Type " ++ Text.quote ext
  | .unreadable path e => "reading config file " ++ path ++ ": " ++ readFailure path e
  | .noReader path ext =>
    "reading config file " ++ path ++ ": no reader for files of type " ++ Text.quote ext
  | .malformed path reason =>
    "reading config file " ++ path ++ ": While parsing config: " ++ reason

/-- What follows the last dot of a file's name. -/
def fileExtension (path : String) : String :=
  let name := (path.toList.reverse.takeWhile (· ≠ '/'))
  if '.' ∈ name then String.ofList (name.takeWhile (· ≠ '.')).reverse else ""

/-- The types of file that are known. Only those with a reader can be read. -/
def knownExtensions : List String :=
  ["json", "toml", "yaml", "yml", "properties", "props", "prop", "hcl", "dotenv", "env", "ini"]

/-- The reader of a type of file, which gives its settings. -/
def reader? (ext : String) : Option (String → Except String Table) :=
  if ext = "json" then some fun text => (Json.parse text).mapError Json.JsonError.message
  else if ext = "yaml" || ext = "yml" then
    some fun text => (Yaml.parse text).mapError fun e => "yaml: " ++ e.message
  else none

/-- Reads a configuration file; without a path there are no settings. A file of a known type
that has no reader is refused. -/
def fileTable (files : FileTree) (path : String) : Except SourceError Table :=
  if path = "" then .ok []
  else
    let ext := fileExtension path
    if ext ∉ knownExtensions then .error (.unsupported path ext)
    else
      match files.read path with
      | .error e => .error (.unreadable path e)
      | .ok content =>
        match reader? ext with
        | none => .error (.noReader path ext)
        | some parse =>
          match parse (String.ofList (Text.decode content)) with
          | .error reason => .error (.malformed path reason)
          | .ok t => .ok (Setting.foldEntries t)

end ArithCompiler.Config
