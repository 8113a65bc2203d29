import ArithCompiler.Text.LetterCase
import ArithCompiler.Text.Pieces
import ArithCompiler.Text.Quoted
import ArithCompiler.Text.Shortest
import ArithCompiler.Text.Utf8

/-!
# Settings

A setting is a value as a file can write it: a scalar, a list or a table. The
keys of tables do not depend on case and are kept in lower case. A key can be
looked up by its path through the tables. A table inside a list is never looked
into, and its keys stay what they are.
-/

namespace ArithCompiler.Config

inductive Setting where
  | null
  | bool (b : Bool)
  | int (n : Int)
  | float (x : Float)
  | text (s : String)
  /-- Bytes that are no text. -/
  | bytes (bs : List UInt8)
  | list (items : List Setting)
  | table (entries : List (String × Setting))
  /-- A table whose keys are any scalars. -/
  | keyed (entries : List (Setting × Setting))
deriving Inhabited

/-- The entries of a table. -/
abbrev Table := List (String × Setting)

namespace Setting

def isNull : Setting → Bool
  | .null => true
  | _ => false

def isCollection : Setting → Bool
  | .list _ | .table _ | .keyed _ => true
  | _ => false

/-- The text of some bytes, if they are one. -/
def ofBytes (bs : List UInt8) : Setting :=
  let s := String.ofList (Text.decode bs)
  if Text.encode s = bs then .text s else .bytes bs

/-- What kind of value it is, as messages name it. -/
def kind : Setting → String
  | .null => "invalid"
  | .bool _ => "bool"
  | .int n => if n < Int.pow 2 63 then "int" else "uint64"
  | .float _ => "float64"
  | .text _ | .bytes _ => "string"
  | .list _ => "slice"
  | .table _ | .keyed _ => "map"

/-- The type of a value, as messages name it. -/
def type : Setting → String
  | .list _ => "[]interface \x7b\x7d"
  | .table _ => "map[string]interface \x7b\x7d"
  | .keyed _ => "map[interface \x7b\x7d]interface \x7b\x7d"
  | s => s.kind

/-! ### Numbers -/

/-- The text of a number with the fewest digits. -/
def floatText (x : Float) : String :=
  match Text.ofFloat x with
  | .nan => "NaN"
  | .infinite negative => if negative then "-Inf" else "+Inf"
  | .finite negative d => Text.signed negative d.general

/-- The positional text of a number. -/
def positionalText (x : Float) : String :=
  match Text.ofFloat x with
  | .nan => "NaN"
  | .infinite negative => if negative then "-Inf" else "+Inf"
  | .finite negative d => Text.signed negative d.positional

/-! ### Keys -/

/-- The text of a key. -/
def keyText : Setting → String
  | .bool b => toString b
  | .int n => toString n
  | .float x => positionalText x
  | .text s => s
  | .bytes bs => String.ofList (Text.decode bs)
  | _ => ""

/-- Whether two keys of a table are the same. A number that is none is the same as
no other. -/
def sameKey : Setting → Setting → Bool
  | .null, .null => true
  | .bool a, .bool b => a == b
  | .int m, .int n => m == n
  | .float x, .float y => x == y
  | .text s, .text t => s == t
  | .bytes bs, .bytes cs => bs == cs
  | _, _ => false

/-- The place of a kind of key among the others in messages. -/
def keyRank : Setting → Nat
  | .null => 0
  | .bool _ => 1
  | .float _ => 2
  | .int n => if n < Int.pow 2 63 then 3 else 5
  | _ => 4

/-- The order of keys in messages: by kind and then by value. -/
def keyBefore : Setting → Setting → Bool
  | .bool a, .bool b => !a && b
  | .int m, .int n => m < n
  | .float x, .float y => x < y || (x.isNaN && !y.isNaN)
  | .text s, .text t => s < t
  | a, b => a.keyRank < b.keyRank

/-- Puts an entry in its place among ordered ones. -/
def insertByKey {α : Type} (e : Setting × α) : List (Setting × α) → List (Setting × α)
  | [] => [e]
  | x :: xs => if keyBefore e.1 x.1 then e :: x :: xs else x :: insertByKey e xs

/-! ### Texts in messages -/

/-- Ordered entries with a sign between key and value. -/
def joinEntries (gap : String) (entries : List (Setting × String × String)) : String :=
  String.intercalate gap
    ((entries.foldr insertByKey []).map fun (_, key, value) => key ++ ":" ++ value)

mutual

/-- A value inside a message. -/
def shown : Setting → String
  | .null => "<nil>"
  | .bool b => toString b
  | .int n => toString n
  | .float x => floatText x
  | .text s => s
  | .bytes bs => String.ofList (Text.decode bs)
  | .list items => "[" ++ String.intercalate " " (shownList items) ++ "]"
  | .table entries => "map[" ++ joinEntries " " (shownEntries entries) ++ "]"
  | .keyed entries => "map[" ++ joinEntries " " (shownPairs entries) ++ "]"

def shownList : List Setting → List String
  | [] => []
  | s :: rest => s.shown :: shownList rest

def shownEntries : List (String × Setting) → List (Setting × String × String)
  | [] => []
  | (k, s) :: rest => (.text k, k, s.shown) :: shownEntries rest

def shownPairs : List (Setting × Setting) → List (Setting × String × String)
  | [] => []
  | (k, s) :: rest => (k, k.shown, s.shown) :: shownPairs rest

end

mutual

/-- A value inside a message that tells its type too. -/
def literal : Setting → String
  | .null => "interface \x7b\x7d(nil)"
  | .text s => Text.quote s
  | .bytes bs => Text.quote (String.ofList (Text.decode bs))
  | .list items =>
    "[]interface \x7b\x7d\x7b" ++ String.intercalate ", " (literalList items) ++ "\x7d"
  | .table entries =>
    "map[string]interface \x7b\x7d\x7b" ++ joinEntries ", " (literalEntries entries) ++ "\x7d"
  | .keyed entries =>
    "map[interface \x7b\x7d]interface \x7b\x7d\x7b" ++ joinEntries ", " (literalPairs entries) ++
      "\x7d"
  | .bool b => toString b
  | .int n => toString n
  | .float x => floatText x

def literalList : List Setting → List String
  | [] => []
  | s :: rest => s.literal :: literalList rest

def literalEntries : List (String × Setting) → List (Setting × String × String)
  | [] => []
  | (k, s) :: rest => (.text k, Text.quote k, s.literal) :: literalEntries rest

def literalPairs : List (Setting × Setting) → List (Setting × String × String)
  | [] => []
  | (k, s) :: rest => (k, k.literal, s.literal) :: literalPairs rest

end

/-! ### Lower case -/

mutual

/-- Puts the keys of tables in lower case. Tables inside lists stay as they are. -/
def foldKeys : Setting → Setting
  | .table entries => .table (foldEntries entries)
  | .keyed entries => .table (foldPairs entries)
  | s => s

def foldEntries : List (String × Setting) → List (String × Setting)
  | [] => []
  | (k, s) :: rest => (Text.lower k, s.foldKeys) :: foldEntries rest

def foldPairs : List (Setting × Setting) → List (String × Setting)
  | [] => []
  | (k, s) :: rest => (Text.lower k.keyText, s.foldKeys) :: foldPairs rest

end

end Setting

namespace Table

/-- The setting of a key. Null stands for a key that is not there. -/
def get (t : Table) (key : String) : Setting := (t.lookup key).getD .null

/-- Sets a key, in its place or at the end. -/
def set : Table → String → Setting → Table
  | [], key, s => [(key, s)]
  | (k, old) :: rest, key, s =>
    if k = key then (k, s) :: rest else (k, old) :: set rest key s

/-- The setting at a path through nested tables. -/
def atPath : Table → List String → Setting
  | t, [] => .table t
  | t, [key] => t.get key
  | t, key :: rest =>
    match t.get key with
    | .table inner => atPath inner rest
    | _ => .null

/-- Sets the value at a path; what is in the way is replaced by tables. -/
def setPath (s : Setting) : List String → Table → Table
  | [], t => t
  | [key], t => t.set key s
  | key :: rest, t =>
    let inner := match t.get key with
      | .table inner => inner
      | _ => []
    t.set key (.table (setPath s rest inner))

end Table

/-! ### Keys -/

/-- The parts of a dotted key. -/
def keyPath (key : String) : List String := Text.split '.' key

def dotted (path : List String) : String := String.intercalate "." path

/-- The proper beginnings of a path that are not empty, shortest first. -/
def parents (path : List String) : List (List String) :=
  (List.range path.length).filterMap fun i => if i = 0 then none else some (path.take i)

end ArithCompiler.Config
