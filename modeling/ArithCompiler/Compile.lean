import ArithCompiler.Code.Lowering
import ArithCompiler.Lexeme.Scan
import ArithCompiler.Log.Record
import ArithCompiler.Text.Pieces
import ArithCompiler.Tree.Builder
import ArithCompiler.Tree.Dump

/-!
# Compiling

A text is scanned, built into a program, lowered to a function, and printed. The
tree can be dumped in front of the function, each of its lines a comment. What
happens on the way is a list of events, from which log records are made.
-/

namespace ArithCompiler

/-! ### Options -/

/-- Whether and how the tree is dumped (`SPEC_FULL.md` §13). Numbers that no mode has dump
nothing. -/
inductive DumpMode where
  | none
  | sexpr
  | pretty
  | unassigned (code : Int)
deriving DecidableEq, Repr

namespace DumpMode

def ofCode (n : Int) : DumpMode :=
  if n = 0 then .none else if n = 1 then .sexpr else if n = 2 then .pretty else .unassigned n

def code : DumpMode → Int
  | .none => 0
  | .sexpr => 1
  | .pretty => 2
  | .unassigned n => n

def name : DumpMode → String
  | .sexpr => "sexpr"
  | .pretty => "pretty"
  | .none | .unassigned _ => "none"

/-- Reads a mode by its name in any case; the empty name is no dump. -/
def parse (s : String) : Except String DumpMode :=
  let t := Text.lower s
  if t = "" || t = "none" then .ok .none
  else if t = "sexpr" then .ok .sexpr
  else if t = "pretty" then .ok .pretty
  else .error ("unknown tree dump mode " ++ Text.quote s)

end DumpMode

structure Options where
  /-- The name of the function; if empty, the default name. -/
  functionName : String
  pointers : PointerStyle
  dump : DumpMode
deriving DecidableEq, Repr

def defaultFunctionName : String := "main"

def Options.function (o : Options) : String :=
  if o.functionName = "" then defaultFunctionName else o.functionName

/-! ### Events -/

/-- Warnings are shown by default, the rest only when asked for. -/
def BuildEvent.level (e : BuildEvent) : Log.Level := if e.isWarning then .warn else .debug

def BuildEvent.record : BuildEvent → Log.Record
  | .droppedAssign loc current =>
    ⟨.warn, "", "ignoring '=' not preceded by a bare variable",
      [("location", .text loc.render), ("current", .text current.render)]⟩
  | .discarded loc dropped =>
    ⟨.warn, "", "return discards the expression before it",
      [("location", .text loc.render), ("discarded", .text dropped.render)]⟩
  | .consumed lexeme current depth =>
    ⟨.debug, "", "consumed lexeme",
      [("lexeme", .text lexeme.render), ("current", .text current.root.render),
        ("groups", .number depth)]⟩

/-- The warning that statements follow a return. -/
def skippedRecord (statements : Nat) : Log.Record :=
  ⟨.warn, "", "statements after return are not lowered", [("skipped", .number statements)]⟩

/-- What compiling reports. -/
inductive Event where
  | build (e : BuildEvent)
  | parsed (lexemes statements : Nat)
  | skipped (statements : Nat)
  | generated (instrs : Nat) (registers : Int)
deriving DecidableEq, Repr

namespace Event

def level : Event → Log.Level
  | .build e => e.level
  | .skipped _ => .warn
  | .parsed _ _ | .generated _ _ => .debug

/-- The record of an event, under the name of the part that reports it. -/
def record : Event → Log.Record
  | .build e => { e.record with source := "builder" }
  | .parsed lexemes statements =>
    ⟨.debug, "", "parsed program",
      [("lexemes", .number lexemes), ("statements", .number statements)]⟩
  | .skipped statements => { skippedRecord statements with source := "ir" }
  | .generated instrs registers =>
    ⟨.debug, "", "generated IR", [("ops", .number instrs), ("registers", .number registers)]⟩

theorem level_record (e : Event) : e.record.level = e.level := by
  rcases e with e | _ | _ | _
  · cases e <;> rfl
  all_goals rfl

/-- The records of the events that a log of level `least` shows. -/
def records (least : Log.Level) (events : List Event) : List Log.Record :=
  (events.filter fun e => least.shows e.level).map record

end Event

/-! ### Compiling -/

inductive CompileError where
  | scan (e : ScanError)
  | build (e : BuildError)
  | generate (e : GenerateError)
deriving DecidableEq, Repr

def CompileError.message : CompileError → String
  | .scan e => e.message
  | .build e => "parsing program: " ++ e.message
  | .generate e => "generating IR: " ++ e.message

/-- The program of a text and the number of its lexemes. -/
def parseText (input : List UInt8) : List Event × Except CompileError (Program × Nat) :=
  match tokenize input with
  | .error e => ([], .error (.scan e))
  | .ok lexemes =>
    match build lexemes with
    | (events, .error e) => (events.map .build, .error (.build e))
    | (events, .ok p) => (events.map .build, .ok (p, lexemes.length))

/-- The program of a text. -/
def parse (input : List UInt8) : List Event × Except CompileError Program :=
  match parseText input with
  | (events, .error e) => (events, .error e)
  | (events, .ok (p, n)) => (events ++ [.parsed n p.length], .ok p)

/-- A program and its function. -/
structure Compiled where
  program : Program
  function : Function
deriving DecidableEq, Repr

/-- Lowers a program to a function with the events of lowering. -/
def lowerProgram (name : String) (p : Program) : List Event × Except CompileError Compiled :=
  match (generate p name).1 with
  | .error e => ([], .error (.generate e))
  | .ok g =>
    ((if g.skipped = 0 then [] else [.skipped g.skipped]) ++
        [.generated g.function.code.length g.function.registers],
      .ok ⟨p, g.function⟩)

/-- Compiles a text to a function (`SPEC_FULL.md` §2). -/
def compile (o : Options) (input : List UInt8) : List Event × Except CompileError Compiled :=
  match parse input with
  | (events, .error e) => (events, .error e)
  | (events, .ok p) =>
    let (more, r) := lowerProgram o.function p
    (events ++ more, r)

/-! ### Output -/

/-- Numbers statements from `i` and shows each as an S-expression. -/
def numbered (i : Nat) : Program → String
  | [] => ""
  | s :: rest =>
    "statement " ++ toString i ++ ": " ++ s.render ++ "\n" ++ numbered (i + 1) rest

/-- The dump of a program, in lines that all end. -/
def DumpMode.render (p : Program) : DumpMode → String
  | .sexpr => numbered 1 p
  | .pretty => String.intercalate "\n" (Dump.program p) ++ "\n"
  | .none | .unassigned _ => ""

/-- A line as a comment. -/
def comment (line : String) : String := "; " ++ line ++ "\n"

/-- Each line of a text as a comment. A last line need not end. -/
def comments (text : String) : String :=
  if text = "" then ""
  else String.join ((Text.split '\n' ((Text.dropEnd? "\n" text).getD text)).map comment)

/-- The text of a compiled program: the dump in comments, and the function. -/
def Compiled.render (o : Options) (c : Compiled) : String :=
  comments (o.dump.render c.program) ++ c.function.render o.pointers

end ArithCompiler
