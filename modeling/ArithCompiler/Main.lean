import ArithCompiler.Cli.Run

/-!
# The command line

Reads what a command line needs, runs it, and prints its outcome: the files that
the configuration flag and the operand name, the variables of the environment
that stand for settings, and standard input.
-/

namespace ArithCompiler.Cli

/-- All bytes of a stream. -/
partial def readAll (stream : IO.FS.Stream) (done : ByteArray) : IO ByteArray := do
  let bytes ← stream.read 65536
  if bytes.isEmpty then return done else readAll stream (done ++ bytes)

/-- Adds the file at a path to a tree, if it is there. -/
def addFile (t : FileTree) (path : String) : IO FileTree := do
  let rooted := if Text.startsWith path "/" then [FileTree.topName] else []
  let p := rooted ++ (Text.split '/' path).filter fun n => n ≠ "" && n ≠ "."
  let parent := t.makeDirectory p.dropLast
  try
    let content ← IO.FS.readBinFile path
    return parent.setNode p (.file content.toList false)
  catch e =>
    match e with
    | .inappropriateType .. => return t.makeDirectory p
    | _ => return t

/-- The files that a command line names. -/
def filesOf (i : Invocation) : IO FileTree :=
  ([i.parsed.value configFlag] ++ i.operand.toList).foldlM (fun t path =>
    if path = "" || path = "-" then pure t else addFile t path) FileTree.base

/-- The variables that stand for settings and their sections. -/
def environmentOf (files : FileTree) (i : Invocation) : IO (List (String × String)) := do
  let bound := match bind i.command.flags i.parsed i.command.bindings with
    | .ok bound => bound
    | .error _ => []
  let file := match Config.fileTable files (i.parsed.value configFlag) with
    | .ok t => t
    | .error _ => []
  let keys := (⟨bound, [], file⟩ : Config.Sources).keys
  let names := (keys.flatMap fun k =>
    k :: (Config.parents (Config.keyPath k)).map Config.dotted).eraseDups.map Config.variableName
  names.filterMapM fun name => do
    return (← IO.getEnv name).map fun value => (name, value)

/-- Whether a command reads standard input. -/
def readsStdin (i : Invocation) : Bool := i.command ≠ .config && i.operand.getD "-" = "-"

/-- The surroundings of a command line; one that is wrong needs none. Records are
stamped with the milliseconds of the system's clock. -/
def worldOf (args : List String) : IO World := do
  let stamp : Log.Stamp := ⟨toString (← IO.monoMsNow), Log.programName⟩
  match Invocation.ofArgs args with
  | .error _ => return ⟨⟨.base, [], "", "build"⟩, [], none, none, stamp⟩
  | .ok i =>
    let files ← filesOf i
    let environment ← environmentOf files i
    let stdin ← if readsStdin i then readAll (← IO.getStdin) .empty else pure .empty
    return ⟨⟨files, environment, (← IO.currentDir).toString, "build"⟩, stdin.toList, none, none,
      stamp⟩

end ArithCompiler.Cli

/-- Runs the command line. If the output cannot be written, that is the outcome. -/
def main (args : List String) : IO UInt32 := do
  let w ← ArithCompiler.Cli.worldOf args
  let o := ArithCompiler.Cli.runArgs w args
  let o ← try
      (← IO.getStdout).putStr o.stdout
      (← IO.getStdout).flush
      pure o
    catch e =>
      pure (ArithCompiler.Cli.runArgs { w with stdoutFails := some (toString e) } args)
  (← IO.getStderr).putStr o.stderr
  return UInt32.ofNat o.code
