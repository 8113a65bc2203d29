import ArithCompiler.Compile
import ArithCompiler.Config.Sources

/-!
# The configuration of a run

Settings become a configuration with a type for each of them. Values are
converted where that makes sense: numbers and truth values to texts, texts to
truth values, a text to a list. All faults are found, not only the first one.
-/

namespace ArithCompiler.Config

structure Configuration where
  logLevel : String
  logFormat : String
  function : String
  pointers : PointerStyle
  dump : DumpMode
  cc : String
  flags : List String
  keep : Bool
deriving DecidableEq, Repr

/-- The options of the compiler. -/
def Configuration.options (c : Configuration) : Options := ⟨c.function, c.pointers, c.dump⟩

/-! ### Faults -/

inductive Fault where
  | notTable (name kind : String)
  | unreadable (name reason : String)
  | notBool (name text : String)
  | wrongType (name expected given shown : String)
  /-- A value where no setting can have one. -/
  | notAllowed (name expected given : String)
deriving DecidableEq, Repr

def Fault.message : Fault → String
  | .notTable name kind => "'" ++ name ++ "' expected a map, got '" ++ kind ++ "'"
  | .unreadable name reason => "error decoding '" ++ name ++ "': " ++ reason
  | .notBool name text =>
    "cannot parse '" ++ name ++ "' as bool: strconv.ParseBool: parsing " ++ Text.quote text ++
      ": invalid syntax"
  | .wrongType name expected given shown =>
    "'" ++ name ++ "' expected type '" ++ expected ++ "', got unconvertible type '" ++ given ++
      "', value: '" ++ shown ++ "'"
  | .notAllowed name expected given =>
    "'" ++ name ++ "' expected type '" ++ expected ++ "', got '" ++ given ++ "'"

/-- The text of some faults, which are in the order of their texts. -/
def faultsMessage (faults : List Fault) : String :=
  "decoding configuration: " ++ toString faults.length ++ " error(s) decoding:\n\n" ++
    String.intercalate "\n" ((faults.map fun f => "* " ++ f.message).mergeSort)

/-! ### Single values -/

/-- A value, or the faults found instead. -/
abbrev Decoded (α : Type) := Except (List Fault) α

def wrongType {α : Type} (name expected : String) (s : Setting) : Decoded α :=
  .error [.wrongType name expected s.type s.shown]

def decodeText (name : String) : Setting → Decoded String
  | .null => .ok ""
  | .text s => .ok s
  | .bool b => .ok (if b then "1" else "0")
  | .int n => .ok (toString n)
  | .bytes bs => .ok (String.ofList (Text.decode bs))
  | .float x => .ok (Setting.positionalText x)
  | s => wrongType name "string" s

def trueTexts : List String := ["1", "t", "T", "TRUE", "true", "True"]

def falseTexts : List String := ["0", "f", "F", "FALSE", "false", "False"]

/-- A truth value by its text. -/
def bool? (s : String) : Option Bool :=
  if s ∈ trueTexts then some true else if s ∈ falseTexts then some false else none

def decodeBool (name : String) : Setting → Decoded Bool
  | .null => .ok false
  | .bool b => .ok b
  | .int n => .ok (n ≠ 0)
  | .float x => .ok (x != 0.0)
  | .text s =>
    match bool? s with
    | some b => .ok b
    | none => if s = "" then .ok false else .error [.notBool name s]
  | s => wrongType name "bool" s

/-- The number without its fraction. One that has no place in 64 bits becomes the
least of all. -/
def truncate (x : Float) : Int :=
  if x.abs < 9223372036854775808.0 then
    if x < 0.0 then - ((-x).toUInt64.toNat : Int) else x.toUInt64.toNat
  else - Int.pow 2 63

/-- A choice by its number, or by its name with `parse`. -/
def decodeChoice {α : Type} (type : String) (ofCode : Int → α) (parse : String → Except String α)
    (name : String) : Setting → Decoded α
  | .null => .ok (ofCode 0)
  | .bool b => .ok (ofCode (if b then 1 else 0))
  | .int n => .ok (ofCode (n.bmod UInt64.size))
  | .float x => .ok (ofCode (truncate x))
  | .text s => (parse s).mapError fun reason => [.unreadable name reason]
  | s => wrongType name type s

def decodePointers : String → Setting → Decoded PointerStyle :=
  decodeChoice "ir.PointerStyle" PointerStyle.ofCode PointerStyle.parse

def decodeDump : String → Setting → Decoded DumpMode :=
  decodeChoice "compiler.DumpMode" DumpMode.ofCode DumpMode.parse

/-- Two results with the faults of both. -/
def both {α β : Type} (a : Decoded α) (b : Decoded β) : Decoded (α × β) :=
  match a, b with
  | .ok x, .ok y => .ok (x, y)
  | .ok _, .error f => .error f
  | .error e, .ok _ => .error e
  | .error e, .error f => .error (e ++ f)

/-- Items of a list, numbered from `i`. -/
def decodeItems (name : String) (i : Nat) : List Setting → Decoded (List String)
  | [] => .ok []
  | s :: rest =>
    (both (decodeText (name ++ "[" ++ toString i ++ "]") s) (decodeItems name (i + 1) rest)).map
      fun (x, xs) => x :: xs

/-- A list of texts. A text is cut at its commas, another scalar is the only item. -/
def decodeTexts (name : String) : Setting → Decoded (List String)
  | .null => .ok []
  | .text s => .ok (if s = "" then [] else Text.split ',' s)
  | .list items => decodeItems name 0 items
  | .bytes bs => .ok (Text.split ',' (String.ofList (Text.decode bs)))
  | .table [] => .ok []
  | s => decodeItems name 0 [s]

/-! ### Sections -/

/-- The table of a section. A section that is not there is empty. -/
def sectionTable (t : Table) (name : String) : Decoded Table :=
  match t.get name with
  | .null => .ok []
  | .table inner => .ok inner
  | s => .error [.notTable name s.kind]

/-- Decodes a setting of a section. -/
def decodeKey {α : Type} (decode : String → Setting → Decoded α) (sectionName key : String)
    (t : Table) : Decoded α :=
  decode (sectionName ++ "." ++ key) (t.get key)

/-- The key `-` stands for the stream that records go to, which no setting can
name. -/
def decodeStream (name : String) : Setting → Decoded Unit
  | .null => .ok ()
  | s => .error [.notAllowed name "io.Writer" s.type]

def decodeLog (t : Table) : Decoded (String × String) :=
  (sectionTable t "log").bind fun t =>
    (both (both (decodeKey decodeText "log" "level" t) (decodeKey decodeText "log" "format" t))
      (decodeKey decodeStream "log" "-" t)).map (·.1)

def decodeIr (t : Table) : Decoded (String × PointerStyle) :=
  (sectionTable t "ir").bind fun t =>
    both (decodeKey decodeText "ir" "function" t) (decodeKey decodePointers "ir" "pointers" t)

def decodeDumpSection (t : Table) : Decoded DumpMode :=
  (sectionTable t "dump").bind fun t => decodeKey decodeDump "dump" "tree" t

def decodeToolchain (t : Table) : Decoded (String × List String × Bool) :=
  (sectionTable t "toolchain").bind fun t =>
    both (decodeKey decodeText "toolchain" "cc" t)
      (both (decodeKey decodeTexts "toolchain" "flags" t) (decodeKey decodeBool "toolchain" "keep" t))

/-- The configuration that some settings give, or all faults in them (`SPEC_FULL.md` §13). -/
def load (t : Table) : Decoded Configuration :=
  (both (both (decodeLog t) (decodeIr t)) (both (decodeDumpSection t) (decodeToolchain t))).map
    fun (((level, format), (function, pointers)), (dump, (cc, flags, keep))) =>
      ⟨level, format, function, pointers, dump, cc, flags, keep⟩

end ArithCompiler.Config
