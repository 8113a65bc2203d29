import ArithCompiler.Process.Reader
import ArithCompiler.Process.Tool

/-!
# The state of a shell

A shell has parameters, functions, files, the status of the last command, and the
places that its streams lead to. A command changes this state, and may leave the
commands around it early.
-/

namespace ArithCompiler.Process

/-- Where a stream goes. -/
inductive Sink where
  | stream (isError : Bool)
  | file (path : String)
  /-- To the next stage of a pipeline, or into a word. -/
  | pipe
deriving DecidableEq, Repr

structure Variable where
  name : String
  value : String
  /-- Whether programs that are started get it. -/
  isExported : Bool
deriving DecidableEq, Repr

structure Shell where
  files : FileTree
  environment : List Variable
  /-- The name of the script, as messages show it. -/
  name : String
  args : List String
  status : Nat
  functions : List (String × Command)
  out : Sink
  err : Sink
  input : List UInt8
  /-- What was written, in order. -/
  output : List Output
  /-- What went into the pipe. -/
  piped : List UInt8
  /-- The line of the command that runs. -/
  line : Nat
  /-- The number of loops around the command that runs. -/
  loops : Nat
  /-- The status of the last script whose output went into a word. -/
  substituted : Option Nat
  /-- Whether a failure ends the script. -/
  stopsOnFailure : Bool
  /-- Whether a parameter without a value ends the script. -/
  needsValues : Bool

/-- How a command leaves the commands around it. -/
inductive Departure where
  | exit
  | fromFunction
  /-- Out of some loops. -/
  | breakOut (loops : Nat)
  /-- Out of some loops and on with the next round of the last one. -/
  | goOn (loops : Nat)
deriving DecidableEq, Repr

abbrev Act := ExceptT Departure (StateM Shell)

/-! ### Parameters -/

namespace Shell

def lookup (sh : Shell) (name : String) : Option String :=
  (sh.environment.find? (·.name = name)).map (·.value)

/-- The value of a parameter. -/
def parameter? (sh : Shell) (name : String) : Option String :=
  match name with
  | "0" => some sh.name
  | "#" => some (toString sh.args.length)
  | "?" => some (toString sh.status)
  | "$" => some "1"
  | "-" => some ""
  | "!" => none
  | "@" | "*" => if sh.args.isEmpty then none else some (String.intercalate " " sh.args)
  | _ =>
    match Text.readUnsigned (Nat.pow 2 31) name with
    | .ok n => sh.args[n - 1]?
    | .error _ => sh.lookup name

/-- Gives a variable a value; it stays exported if it was. -/
def assign (sh : Shell) (name value : String) : Shell :=
  let isExported := sh.environment.any fun v => v.name = name && v.isExported
  { sh with environment := ⟨name, value, isExported⟩ :: sh.environment.filter (·.name ≠ name) }

def exportName (sh : Shell) (name : String) : Shell :=
  { sh with environment := sh.environment.map fun v =>
      if v.name = name then { v with isExported := true } else v }

/-- What programs that are started get. -/
def exported (sh : Shell) : List (String × String) :=
  (sh.environment.filter (·.isExported)).map fun v => (v.name, v.value)

/-! ### Streams -/

/-- Sends bytes to where a stream leads. -/
def emit (sh : Shell) (isError : Bool) (bytes : List UInt8) : Shell :=
  if bytes.isEmpty then sh
  else
    match if isError then sh.err else sh.out with
    | .stream isError => { sh with output := sh.output ++ [⟨isError, bytes⟩] }
    | .pipe => { sh with piped := sh.piped ++ bytes }
    | .file path =>
      let old := (sh.files.read path).toOption.getD []
      match sh.files.write path (old ++ bytes) with
      | .ok files => { sh with files := files }
      | .error _ => sh

/-- Writes a message of the shell itself. -/
def say (sh : Shell) (message : String) : Shell :=
  sh.emit true (Text.encode (sh.name ++ ": " ++ toString sh.line ++ ": " ++ message ++ "\n"))

/-- The shell after a program has finished. -/
def settle (sh : Shell) (f : Finished) : Shell :=
  f.output.foldl (fun sh o => sh.emit o.isError o.bytes)
    { sh with files := f.files, status := f.status }

/-- The shell after a command of its own has said something. -/
def settleSaid (sh : Shell) (command : String) (s : Said) : Shell :=
  let sh := s.messages.foldl (fun sh m => sh.say (command ++ ": " ++ m)) sh
  { sh.emit false s.bytes with status := s.status }

end Shell

/-! ### Redirections -/

/-- A redirection whose words have been replaced by texts. -/
inductive Route where
  | toFile (stream : Nat) (appending : Bool) (path : String)
  | toStream (stream other : Nat)
  | fromFile (path : String)
  | fromText (text : String)
deriving DecidableEq, Repr

/-- Whether a path is the file that keeps nothing. -/
def isNullFile (path : String) : Bool := path == "/dev/null"

/-- Leads a stream to a sink; streams beyond the first two lead nowhere. -/
def Shell.lead (sh : Shell) (stream : Nat) (s : Sink) : Shell :=
  if stream = 1 then { sh with out := s }
  else if stream = 2 then { sh with err := s }
  else sh

/-- Carries out a redirection; fails with a message. -/
def Shell.follow (sh : Shell) : Route → Except String Shell
  | .toStream stream other =>
    if other = 1 then .ok (sh.lead stream sh.out)
    else if other = 2 then .ok (sh.lead stream sh.err)
    else if other = 0 then .ok sh
    else .error (toString other ++ ": Bad file descriptor")
  | .toFile stream appending path =>
    if isNullFile path then .ok (sh.lead stream (.file path))
    else
      let old := if appending then (sh.files.read path).toOption.getD [] else []
      match sh.files.write path old with
      | .ok files => .ok ({ sh with files := files }.lead stream (.file path))
      | .error .isDirectory => .error ("cannot create " ++ path ++ ": Is a directory")
      | .error _ => .error ("cannot create " ++ path ++ ": Directory nonexistent")
  | .fromFile path =>
    if isNullFile path then .ok { sh with input := [] }
    else
      match sh.files.read path with
      | .ok content => .ok { sh with input := content }
      | .error .isDirectory => .ok { sh with input := [] }
      | .error _ => .error ("cannot open " ++ path ++ ": No such file")
  | .fromText text => .ok { sh with input := Text.encode text }

/-! ### Fields -/

/-- A part of what a word stands for. -/
inductive Span where
  /-- Text, which may be cut into fields at blanks. -/
  | text (cs : List Char) (isQuoted isCut : Bool)
  /-- The end of a field. -/
  | gap
deriving DecidableEq, Repr

namespace Span

/-- Fields under construction: the finished ones and the open one. -/
structure Fields where
  done : List Pattern
  current : Option Pattern

def Fields.add (f : Fields) (p : Pattern) : Fields :=
  { f with current := some (f.current.getD [] ++ p) }

def Fields.close (f : Fields) : Fields :=
  match f.current with
  | none => f
  | some p => ⟨f.done ++ [p], none⟩

/-- The fields of spans. Quoted text makes a field even if it is empty. -/
def fields (spans : List Span) : List Pattern :=
  (spans.foldl (fun (f : Fields) s =>
    match s with
    | .gap => f.close
    | .text cs true _ => f.add (Pattern.quoted cs)
    | .text cs false false => if cs.isEmpty then f else f.add (cs.map (⟨·, false⟩))
    | .text cs false true =>
      cs.foldl (fun f c => if Arithmetic.isGap c then f.close else f.add [⟨c, false⟩]) f)
    ⟨[], none⟩).close.done

/-- The characters of spans, in one piece. -/
def pattern (spans : List Span) : Pattern :=
  spans.flatMap fun s =>
    match s with
    | .gap => [⟨' ', true⟩]
    | .text cs isQuoted _ => cs.map (⟨·, isQuoted⟩)

/-- Text that may be cut. -/
def cuttable : Span → Span
  | .text cs false _ => .text cs false true
  | s => s

end Span

end ArithCompiler.Process
