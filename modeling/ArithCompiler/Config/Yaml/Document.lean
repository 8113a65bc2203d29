import ArithCompiler.Config.Yaml.Node
import ArithCompiler.Text.Base64

/-!
# Settings of a document

The tree of a document becomes a table of settings. Scalars stand for what their
tag or their form says. An entry with the key `<<` puts the entries of another
table in its place; later entries go before earlier ones. The outermost table has
texts for keys; the keys of all others may be any scalars.
-/

namespace ArithCompiler.Config.Yaml

/-! ### Tags -/

def standardTag (name : String) : String := "tag:yaml.org,2002:" ++ name

/-- A tag as messages show it. -/
def shortTag (tag : String) : String :=
  match Text.dropStart? (standardTag "") tag with
  | some name => "!!" ++ name
  | none => tag

/-- The name of the kind of a scalar. -/
def kindName : Setting → String
  | .null => "null"
  | .bool _ => "bool"
  | .int _ => "int"
  | .float _ => "float"
  | .list _ => "seq"
  | .table _ | .keyed _ => "map"
  | .text _ | .bytes _ => "str"

/-- What a scalar with a tag stands for. -/
def taggedScalar (tag text : String) : Except Fault Setting :=
  let s := Scalar.resolve text
  let refused : Except Fault Setting :=
    .error (.badScalar ("!!" ++ kindName s) text (shortTag tag))
  if tag = standardTag "null" then
    match s with
    | .null => .ok s
    | _ => refused
  else if tag = standardTag "bool" then
    match s with
    | .bool _ => .ok s
    | _ => refused
  else if tag = standardTag "int" then
    match s with
    | .int _ => .ok s
    | _ => refused
  else if tag = standardTag "float" then
    match s with
    | .float _ => .ok s
    | .int n => if n < Int.pow 2 63 then .ok (.float (Float.ofInt n)) else refused
    | _ => refused
  else if tag = standardTag "timestamp" then
    if Scalar.isTimestamp text.toList then .ok (.text text) else refused
  else if tag = standardTag "binary" then
    match Text.Base64.decode text with
    | some bytes => .ok (.ofBytes bytes)
    | none => .error .badBinary
  else .ok (.text text)

/-- What a scalar stands for. -/
def scalarSetting (tag : String) (isImplicit : Bool) (text : String) : Except Fault Setting :=
  if tag ≠ "" then taggedScalar tag text
  else .ok (if isImplicit then Scalar.resolve text else .text text)

/-- Whether a key asks for the entries of another table. -/
def isMerge : Node → Bool
  | .scalar _ tag isImplicit text =>
    text = "<<" && (isImplicit || tag = standardTag "merge")
  | _ => false

/-! ### Content -/

/-- How much was read so far, and what was found to be of a wrong type. -/
structure Tally where
  values : Nat
  /-- Of these, the ones reached through an alias. -/
  aliased : Nat
  /-- The number of aliases around the present value. -/
  depth : Nat
  mismatches : List Mismatch

abbrev Extract := StateT Tally (Except Fault)

/-- The entries of a table, latest value first for each key. -/
abbrev Entries := List (Setting × Setting)

namespace Extract

/-- Whether too many values come from aliases: more than 99 in 100, and in long
documents fewer. -/
def isExcessive (t : Tally) : Bool :=
  let low := 400000
  let high := 4000000
  t.aliased > 100 && t.values > 1000 &&
    (if t.values ≤ low then t.aliased * 100 > t.values * 99
      else if t.values ≥ high then t.aliased * 10 > t.values
      else t.aliased * 100 * (high - low) > t.values * (99 * (high - low) - 89 * (t.values - low)))

def count : Extract Unit := do
  modify fun t => { t with
    values := t.values + 1
    aliased := if t.depth > 0 then t.aliased + 1 else t.aliased }
  if isExcessive (← get) then throw .tooManyAliases

def mismatch (line : Nat) (found wanted : String) : Extract Unit :=
  modify fun t => { t with mismatches := t.mismatches ++ [⟨line + 1, found, wanted⟩] }

/-- Reads the value of an alias. -/
def behindAlias {α : Type} (x : Extract α) : Extract α := do
  modify fun t => { t with depth := t.depth + 1 }
  let a ← x
  modify fun t => { t with depth := t.depth - 1 }
  pure a

def setEntry (key value : Setting) (entries : Entries) : Entries :=
  entries.filter (fun e => !e.1.sameKey key) ++ [(key, value)]

/-- A key that has to be a text. One of another kind is shown as it was written. -/
def textKey : Node → Extract (Option Setting)
  | .scalar _ tag isImplicit text => do
    count
    match ← scalarSetting tag isImplicit text with
    | .null => pure (some (.text ""))
    | .text s => pure (some (.text s))
    | .bytes b => pure (some (.bytes b))
    | _ => pure (some (.text text))
  | .list line _ => do
    count
    mismatch line "!!seq" "string"
    pure none
  | .table line _ => do
    count
    mismatch line "!!map" "string"
    pure none
  | .alias name none => throw (.endless name)
  | .alias _ (some target) => do
    count
    behindAlias (textKey target)

mutual

def value : Node → Extract Setting
  | .scalar _ tag isImplicit text => do
    count
    scalarSetting tag isImplicit text
  | .list _ nodes => do
    count
    pure (.list (← values nodes))
  | .table _ pairs => do
    count
    pure (.keyed (← entries false pairs []))
  | .alias name none => throw (.endless name)
  | .alias _ (some target) => do
    count
    behindAlias (value target)

def values : List Node → Extract (List Setting)
  | [] => pure []
  | n :: rest => do
    let v ← value n
    let vs ← values rest
    pure (v :: vs)

/-- Adds entries to those before them. -/
def entries (asText : Bool) : List (Node × Node) → Entries → Extract Entries
  | [], done => pure done
  | (k, v) :: rest, done => do
    if isMerge k then
      let done ← merge asText v done
      entries asText rest done
    else
      let key ← if asText then textKey k else some <$> value k
      match key with
      | none => entries asText rest done
      | some key =>
        if key.isCollection then throw (.badKey key.literal)
        let v ← value v
        entries asText rest (setEntry key v done)

/-- Adds the entries of a table, or of several of which the first ones win. -/
def merge (asText : Bool) : Node → Entries → Extract Entries
  | .table _ pairs, done => do
    count
    entries asText pairs done
  | .alias _ (some (.table _ pairs)), done => do
    count
    behindAlias (entries asText pairs done)
  | .alias name none, _ => throw (.endless name)
  | .list _ nodes, done => mergeAll asText nodes done
  | _, _ => throw .badMerge

def mergeAll (asText : Bool) : List Node → Entries → Extract Entries
  | [], done => pure done
  | .table _ pairs :: rest, done => do
    let done ← mergeAll asText rest done
    count
    entries asText pairs done
  | .alias _ (some (.table _ pairs)) :: rest, done => do
    let done ← mergeAll asText rest done
    count
    behindAlias (entries asText pairs done)
  | .alias name none :: _, _ => throw (.endless name)
  | _ :: _, _ => throw .badMerge

end

/-- A value inside a message: long ones are cut. -/
def excerpt (text : String) : String :=
  if text.utf8ByteSize > 10 then " \x60" ++ String.ofList (text.toList.take 7) ++ "...\x60"
  else " \x60" ++ text ++ "\x60"

def tableType : String := "map[string]interface \x7b\x7d"

/-- The outermost table. A scalar in its place has to be null. -/
def outermost : Node → Extract Entries
  | .scalar line tag isImplicit text => do
    match ← scalarSetting tag isImplicit text with
    | .null => pure []
    | s =>
      let tag := if tag = "" then "!!" ++ kindName s else shortTag tag
      mismatch line (tag ++ excerpt text) tableType
      pure []
  | .list line _ => do
    mismatch line "!!seq" tableType
    pure []
  | .table _ pairs => do
    count
    entries true pairs []
  | .alias name _ => throw (.endless name)

end Extract

/-- The table of the first document of a text. A text without one is an empty
table. -/
def parse (s : String) : Except Fault Table := do
  let cs := s.toList
  let cs := if cs.head? = some orderMark then cs.tail else cs
  match ← Node.ofChars cs with
  | none => pure []
  | some n =>
    let (entries, tally) ← (Extract.outermost n).run ⟨0, 0, 0, []⟩
    if tally.mismatches.isEmpty then pure (entries.map fun (k, v) => (k.keyText, v))
    else throw (.mismatches tally.mismatches)

end ArithCompiler.Config.Yaml
