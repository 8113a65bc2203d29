import ArithCompiler.Cli.Command
import ArithCompiler.Config.Yaml.Printer
import ArithCompiler.Engine
import ArithCompiler.Log.Layout

/-!
# Running a command

A command reads its configuration, then its input, and then does its work. What
it says goes to the error output: log records as they come, and at the end the
error, if there is one.
-/

namespace ArithCompiler.Cli

/-- The surroundings of a run. -/
structure World where
  host : Host
  stdin : List UInt8
  /-- Why standard input breaks off, if it does. -/
  stdinFails : Option String
  /-- Why standard output takes nothing, if so. -/
  stdoutFails : Option String
  stamp : Log.Stamp
deriving DecidableEq, Repr

structure Outcome where
  code : Nat
  stdout : String
  stderr : String
deriving DecidableEq, Repr

/-! ### Errors -/

inductive CommandError where
  | args (e : ArgsError)
  | sources (e : Config.SourceError)
  | settings (faults : List Config.Fault)
  | log (e : Log.SettingsError)
  | stdin (reason : String)
  | input (path : String) (e : FileError)
  | compile (e : CompileError)
  | engine (e : EngineError)
  | output (reason : String)
deriving DecidableEq, Repr

def CommandError.message : CommandError → String
  | .args e => e.message
  | .sources e => e.message
  | .settings faults => Config.faultsMessage faults
  | .log e => e.message
  | .stdin reason => "reading standard input: " ++ reason
  | .input path e => "reading input file: " ++ readFailure path e
  | .compile e => e.message
  | .engine (.run e) => "interpreting IR: " ++ e.message
  | .engine (.toolchain e) => e.message
  | .engine (.unknown name) => "unknown engine " ++ Text.quote name
  | .output reason => "writing output: " ++ reason

/-! ### Setup -/

/-- What a command works with. -/
structure Setup where
  sources : Config.Sources
  configuration : Config.Configuration
  log : Log.Settings

/-- Gathers the settings of an invocation. -/
def Setup.ofInvocation (w : World) (i : Invocation) : Except CommandError Setup := do
  let bound ← (bind i.command.flags i.parsed i.command.bindings).mapError .sources
  let file ← (Config.fileTable w.host.files (i.parsed.value configFlag)).mapError .sources
  let sources : Config.Sources := ⟨bound, w.host.environment, file⟩
  let c ← (Config.load sources.settings).mapError .settings
  let log ← (Log.Settings.parse c.logLevel c.logFormat).mapError .log
  return ⟨sources, c, log⟩

/-- The input: a file, or standard input if none or `-` is named. -/
def readInput (w : World) (operand : Option String) : Except CommandError (List UInt8) :=
  let path := operand.getD "-"
  if path = "-" then
    match w.stdinFails with
    | some reason => .error (.stdin reason)
    | none => .ok w.stdin
  else (w.host.files.read path).mapError (.input path)

/-! ### Commands -/

/-- The end of a command: log records in order, and text to be written and a
status, or an error. -/
structure Ended where
  records : List Log.Record
  result : Except CommandError (String × Nat)

def Ended.failed (e : CommandError) : Ended := ⟨[], .error e⟩

/-- Text for the output, which may not take it. -/
def writeOutput (w : World) (text : String) : Except CommandError (String × Nat) :=
  match w.stdoutFails with
  | some reason => .error (.output reason)
  | none => .ok (text, 0)

def Setup.records (s : Setup) (events : List Event) : List Log.Record :=
  Event.records s.log.level events

def compileCommand (w : World) (s : Setup) (input : List UInt8) : Ended :=
  let options := s.configuration.options
  let (events, r) := compile options input
  ⟨s.records events,
    match r with
    | .error e => .error (.compile e)
    | .ok c => writeOutput w (c.render options)⟩

/-- One line for each lexeme: its place and itself. -/
def tokensCommand (w : World) (input : List UInt8) : Ended :=
  match tokenize input with
  | .error e => .failed (.compile (.scan e))
  | .ok ls =>
    ⟨[], writeOutput w (String.join (ls.map fun l => l.loc.render ++ "\t" ++ l.render ++ "\n"))⟩

/-- The dump of the tree, by default as S-expressions. -/
def treeCommand (w : World) (s : Setup) (input : List UInt8) : Ended :=
  let (events, r) := parse input
  let mode := if s.configuration.dump = .none then .sexpr else s.configuration.dump
  ⟨s.records events,
    match r with
    | .error e => .error (.compile e)
    | .ok p => writeOutput w (mode.render p)⟩

def configCommand (w : World) (s : Setup) : Ended :=
  ⟨[], writeOutput w (Config.Yaml.render s.sources.settings)⟩

/-- The record of a status. -/
def finishedRecord (code : Nat) : Log.Record :=
  ⟨.info, "", "program finished", [("exit_code", .number code)]⟩

/-- Executes the program; its status becomes that of the command. -/
def runCommand (w : World) (s : Setup) (engine : String) (input : List UInt8) : Ended :=
  let c := s.configuration
  let (events, r) := compile c.options input
  let compiled := s.records events
  match r with
  | .error e => ⟨compiled, .error (.compile e)⟩
  | .ok p =>
    let e := execute engine ⟨c.cc, c.flags, c.keep⟩ w.host c.pointers p.function
    let records := compiled ++ e.events.map Toolchain.Event.record
    match e.outcome with
    | .error e => ⟨records, .error (.engine e)⟩
    | .ok code => ⟨records ++ [finishedRecord code], .ok ("", code)⟩

def Invocation.run (w : World) (s : Setup) (i : Invocation) : Ended :=
  if i.command = .config then configCommand w s
  else
    match readInput w i.operand with
    | .error e => .failed e
    | .ok input =>
      match i.command with
      | .root | .compile => compileCommand w s input
      | .run => runCommand w s (i.parsed.value engineFlag) input
      | .tokens => tokensCommand w input
      | .tree => treeCommand w s input
      | .config => configCommand w s

/-! ### The whole program -/

/-- The outcome of a failure (`SPEC_FULL.md` §11): nothing is written to the output. -/
def failure (logged : String) (e : CommandError) : Outcome :=
  ⟨1, "", logged ++ Log.programName ++ ": " ++ e.message ++ "\n"⟩

/-- Runs a command line. -/
def runArgs (w : World) (args : List String) : Outcome :=
  match Invocation.ofArgs args with
  | .error e => failure "" (.args e)
  | .ok i =>
    match Setup.ofInvocation w i with
    | .error e => failure "" e
    | .ok s =>
      let ended := i.run w s
      let logged := s.log.render w.stamp ended.records
      match ended.result with
      | .error e => failure logged e
      | .ok (text, code) => ⟨code, text, logged⟩

end ArithCompiler.Cli
