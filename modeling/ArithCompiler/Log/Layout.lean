import ArithCompiler.Log.Record

/-!
# Layouts of log records

A record is one line in one of three layouts: tab-separated columns for a
console, a JSON object, or `key=value` pairs. The three share one way to escape
strings.
-/

namespace ArithCompiler.Log

inductive Layout where
  | console
  | json
  | logfmt
deriving DecidableEq, Repr

/-- The level and layout of a log (`SPEC_FULL.md` §12). -/
structure Settings where
  level : Level
  layout : Layout
deriving DecidableEq, Repr

inductive SettingsError where
  | level (name : String)
  | layout (name : String)
deriving DecidableEq, Repr

def SettingsError.message : SettingsError → String
  | .level name =>
    "invalid log level " ++ Text.quote name ++ ": unrecognized level: " ++
      Text.quote (Text.lower name)
  | .layout name => "invalid log format " ++ Text.quote name

/-- A layout by its name in lower case; the empty name is the console layout. -/
def Layout.ofName? (s : String) : Option Layout :=
  if s = "" || s = "console" then some .console
  else if s = "json" then some .json
  else if s = "logfmt" then some .logfmt
  else none

/-- Reads both settings, in any case. The level is looked at first. -/
def Settings.parse (level layout : String) : Except SettingsError Settings :=
  match Level.ofName? (Text.lower level) with
  | none => .error (.level level)
  | some l =>
    match Layout.ofName? (Text.lower layout) with
    | none => .error (.layout layout)
    | some f => .ok ⟨l, f⟩

/-- When and where a record was made, as its line shows it. -/
structure Stamp where
  time : String
  caller : String
deriving DecidableEq, Repr

/-! ### Escaping -/

/-- One character of a string: backslash, double quote and control characters are
escaped. -/
def escapeChar (c : Char) : String :=
  if c = '\\' then "\\\\"
  else if c = '"' then "\\\""
  else if c = '\n' then "\\n"
  else if c = '\r' then "\\r"
  else if c = '\t' then "\\t"
  else if c < ' ' then "\\u" ++ String.ofList (Text.hex 4 c.toNat)
  else c.toString

def escaped (s : String) : String := String.join (s.toList.map escapeChar)

def quoted (s : String) : String := "\"" ++ escaped s ++ "\""

/-- Texts with a separator between them. -/
def joined (sep : String) : List String → String
  | [] => ""
  | [s] => s
  | s :: rest => s ++ sep ++ joined sep rest

/-! ### JSON objects -/

/-- A value inside an object; `gap` is what follows a comma or colon. -/
def Value.json (gap : String) : Value → String
  | .text s => quoted s
  | .number n => toString n
  | .texts items => "[" ++ joined ("," ++ gap) (items.map quoted) ++ "]"

/-- An object with its members in order. -/
def object (gap : String) (members : List (String × Value)) : String :=
  "\x7b" ++ joined ("," ++ gap) (members.map fun m => quoted m.1 ++ ":" ++ gap ++ m.2.json gap) ++
    "\x7d"

/-! ### Pairs -/

/-- A character that a key cannot hold, and that puts a value into quotes. -/
def isAwkward (c : Char) : Bool := c ≤ ' ' || c == '=' || c == '"' || c == Char.ofNat 0xFFFD

/-- A value is put in quotes if it has an awkward character; it is escaped anyway. -/
def pairText (s : String) : String := if s.toList.any isAwkward then quoted s else escaped s

/-- The value of a pair. -/
def Value.pair : Value → String
  | .text s => pairText s
  | .number n => toString n
  | .texts items => pairText (joined "," items)

def pair (m : String × Value) : String :=
  String.ofList (m.1.toList.filter fun c => !isAwkward c) ++ "=" ++ m.2.pair

/-! ### Lines -/

/-- The line of a record. -/
def Layout.render (stamp : Stamp) (r : Record) : Layout → String
  | .console =>
    joined "\t"
      ([stamp.time, Text.upper r.level.name, r.name, stamp.caller, r.message] ++
        if r.fields.isEmpty then [] else [object " " r.fields]) ++ "\n"
  | .json =>
    object ""
      ([("level", .text r.level.name), ("ts", .text stamp.time), ("name", .text r.name),
        ("caller", .text stamp.caller), ("msg", .text r.message)] ++ r.fields) ++ "\n"
  | .logfmt =>
    joined " "
      (["ts=" ++ stamp.time] ++
        ([("level", Value.text r.level.name), ("name", .text r.name),
          ("caller", .text stamp.caller), ("msg", .text r.message)] ++ r.fields).map pair) ++ "\n"

/-- The text of those records that a log shows. -/
def Settings.render (s : Settings) (stamp : Stamp) (rs : List Record) : String :=
  String.join ((rs.filter fun r => s.level.shows r.level).map (s.layout.render stamp))

end ArithCompiler.Log
