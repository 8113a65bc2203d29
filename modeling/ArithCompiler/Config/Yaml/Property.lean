import ArithCompiler.Config.Scalar
import ArithCompiler.Config.Yaml.Cursor
import ArithCompiler.Config.Yaml.Fault
import ArithCompiler.Text.Utf8

/-!
# Anchors, tags and directives

An anchor names a value and an alias stands for the value of that name. A tag
names the kind of a value: whole between angle brackets, or as a handle and a
suffix. Directives in front of a document tell its version and what handles stand
for.
-/

namespace ArithCompiler.Config.Yaml

/-! ### Names -/

/-- Characters that may follow the name of an anchor. -/
def afterAnchor : List Char := ['?', ':', ',', ']', '\x7d', '%', '@', '\x60']

/-- The name of an anchor or an alias, from its sign on. -/
def readAnchor (c : Cursor) : Except Fault (String × Cursor) :=
  let (name, next) := (c.skip 1).takeWhile isNameCharacter
  if name.isEmpty || !(isGap next.head? || next.head?.any (· ∈ afterAnchor)) then
    .error (.ofToken .noAnchorName c.line next.line)
  else .ok (String.ofList name, next)

/-! ### Tags -/

/-- A character of a tag, apart from those of names. -/
def tagCharacters : List Char :=
  [';', '/', '?', ':', '@', '&', '=', '+', '$', ',', '.', '!', '~', '*', '\x27', '(', ')', '[', ']',
    '%']

/-- The number of bytes of the character that a byte begins. -/
def byteWidth (n : Nat) : Nat :=
  if n < 0x80 then 1 else if n / 0x20 = 6 then 2 else if n / 0x10 = 14 then 3
  else if n / 0x08 = 30 then 4 else 0

/-- The value of a byte that is written with a percent sign and two digits. -/
def escapedByte? : List Char → Option Nat
  | '%' :: a :: b :: _ => Scalar.inBase? 16 0 [a, b]
  | _ => none

/-- The bytes of an escaped character behind its first one. -/
def readTail (start : Nat) : (count : Nat) → (done : List UInt8) → Cursor →
    Except Fault (List UInt8 × Cursor)
  | 0, done, c => .ok (done.reverse, c)
  | count + 1, done, c =>
    match escapedByte? c.rest with
    | none => .error (.ofToken .noTagOctet start c.line)
    | some n =>
      if n / 0x40 = 2 then readTail start count (UInt8.ofNat n :: done) (c.skip 3)
      else .error (.ofToken .badTagTail start c.line)

/-- One escaped character. -/
def readEscaped (start : Nat) (c : Cursor) : Except Fault (List Char × Cursor) :=
  match escapedByte? c.rest with
  | none => .error (.ofToken .noTagOctet start c.line)
  | some n =>
    match byteWidth n with
    | 0 => .error (.ofToken .badTagLead start c.line)
    | w + 1 =>
      (readTail start w [UInt8.ofNat n] (c.skip 3)).map fun (bytes, c) => (Text.decode bytes, c)

/-- The text of a tag. -/
def readTagText (start : Nat) : (fuel : Nat) → (done : List Char) → Cursor →
    Except Fault (List Char × Cursor)
  | 0, done, c => .ok (done, c)
  | fuel + 1, done, c =>
    match c.head? with
    | some a =>
      if a == '%' then
        match readEscaped start c with
        | .error e => .error e
        | .ok (cs, c) => readTagText start fuel (done ++ cs) c
      else if isNameCharacter a || a ∈ tagCharacters then
        readTagText start fuel (done ++ [a]) (c.skip 1)
      else .ok (done, c)
    | none => .ok (done, c)

/-- The text of a tag, of which there is some. -/
def readSomeTagText (start : Nat) (c : Cursor) : Except Fault (List Char × Cursor) := do
  let (text, next) ← readTagText start (c.rest.length + 1) [] c
  if next.index = c.index then .error (.ofToken .noTagText start c.line) else pure (text, next)

/-- A handle: exclamation marks around a name, or the first mark and the name. -/
def readHandle (c : Cursor) : List Char × Cursor :=
  let (name, next) := (c.skip 1).takeWhile isNameCharacter
  if next.head? == some '!' then ('!' :: name ++ ['!'], next.skip 1) else ('!' :: name, next)

/-- A tag: the handle, which may be empty, and what stands behind it. -/
structure Tag where
  handle : String
  suffix : String
deriving DecidableEq, Repr

/-- Reads a tag without what has to follow it. A mark alone is a tag of its own. -/
def readTagBody (c : Cursor) : Except Fault (Tag × Cursor) := do
  let start := c.line
  if (c.skip 1).head? == some '<' then
    let (text, next) ← readSomeTagText start (c.skip 2)
    if next.head? == some '>' then pure (⟨"", String.ofList text⟩, next.skip 1)
    else .error (.ofToken .noTagClose start next.line)
  else
    let (handle, next) := readHandle c
    if handle.length > 1 && handle.getLast? == some '!' then
      let (text, next) ← readSomeTagText start next
      pure (⟨String.ofList handle, String.ofList text⟩, next)
    else
      let (text, next) ← readTagText start (next.rest.length + 1) handle.tail next
      if text.isEmpty then pure (⟨"", "!"⟩, next) else pure (⟨"!", String.ofList text⟩, next)

def readTag (c : Cursor) : Except Fault (Tag × Cursor) := do
  let (tag, next) ← readTagBody c
  if isGap next.head? then pure (tag, next) else .error (.ofToken .noTagEnd c.line next.line)

/-! ### Directives -/

inductive Directive where
  | version (major minor : Nat)
  | handle (name expansion : String)
deriving DecidableEq, Repr

/-- A number of at most two digits. -/
def readVersionNumber (start : Nat) (c : Cursor) : Except Fault (Nat × Cursor) :=
  let (ds, next) := c.takeWhile Scalar.isDigit
  if ds.length > 2 then .error (.ofToken .longVersion start (c.skip 3).line)
  else if ds.isEmpty then .error (.ofToken .noVersion start c.line)
  else .ok ((Scalar.inBase? 10 0 ds).getD 0, next)

def readVersion (start : Nat) (c : Cursor) : Except Fault (Directive × Cursor) := do
  let (major, c) ← readVersionNumber start (c.skipWhile isBlank)
  if c.head? == some '.' then
    let (minor, c) ← readVersionNumber start (c.skip 1)
    pure (.version major minor, c)
  else .error (.ofToken .noVersionPoint start c.line)

/-- A handle and what it stands for. -/
def readHandleDirective (start : Nat) (c : Cursor) : Except Fault (Directive × Cursor) := do
  let c := c.skipWhile isBlank
  if c.head? ≠ some '!' then .error (.ofToken .noTagMark start c.line)
  let (handle, c) := readHandle c
  if handle ≠ ['!'] && handle.getLast? ≠ some '!' then .error (.ofToken .noTagMark start c.line)
  if !c.head?.any isBlank then .error (.ofToken .noTagSpace start c.line)
  let (text, c) ← readSomeTagText start (c.skipWhile isBlank)
  if isGap c.head? then pure (.handle (String.ofList handle) (String.ofList text), c)
  else .error (.ofToken .noTagEnd start c.line)

/-- Reads a directive from its percent sign to the end of its line. -/
def readDirective (c : Cursor) : Except Fault (Directive × Cursor) := do
  let start := c.line
  let (name, c) := (c.skip 1).takeWhile isNameCharacter
  if name.isEmpty then .error (.ofToken .noDirectiveName start c.line)
  if !isGap c.head? then .error (.ofToken .badDirectiveName start c.line)
  let (directive, c) ←
    if name = "YAML".toList then readVersion start c
    else if name = "TAG".toList then readHandleDirective start c
    else .error (.ofToken .unknownDirective start c.line)
  let c := (c.skipWhile isBlank).skipComment
  if c.head?.all isBreak then pure (directive, c.nextLine)
  else .error (.ofToken .noLineEnd start c.line)

end ArithCompiler.Config.Yaml
