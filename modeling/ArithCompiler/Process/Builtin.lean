import ArithCompiler.Process.Shell

/-!
# Commands of the shell itself

Some commands are part of the shell: those that change its parameters, options and
input, those that end scripts, functions and loops, and a few that only write. A
mistake in a special command ends the script.
-/

namespace ArithCompiler.Process

/-- Ends the script with a message. -/
def giveUp {α : Type} (message : String) : Act α := do
  modify fun sh => { sh.say message with status := 2 }
  throw .exit

/-- Commands of the shell whose failure ends the script. -/
def specialCommands : List String :=
  [":", ".", "break", "continue", "eval", "exec", "exit", "export", "readonly", "return", "set",
    "shift", "times", "trap", "unset"]

/-- The number that a command has as its first argument. -/
def countArg (command : String) (args : List String) (default : Nat) : Act Nat :=
  match args with
  | [] => pure default
  | a :: _ =>
    match Text.readUnsigned (Nat.pow 2 31) a with
    | .ok n => pure n
    | .error _ => giveUp (command ++ ": Illegal number: " ++ a)

/-- Sets options by their letters. -/
def setOption (isOn : Bool) (c : Char) : Act Unit :=
  if c = 'e' then modify fun sh => { sh with stopsOnFailure := isOn }
  else if c = 'u' then modify fun sh => { sh with needsValues := isOn }
  else if c ∈ ['a', 'b', 'C', 'f', 'h', 'm', 'n', 'v', 'x'] then pure ()
  else giveUp ("set: Illegal option " ++ (if isOn then "-" else "+") ++ c.toString)

/-- Sets an option by its name. -/
def setNamed (isOn : Bool) (name : String) : Act Unit :=
  if name = "errexit" then setOption isOn 'e'
  else if name = "nounset" then setOption isOn 'u'
  else giveUp ("set: Illegal option " ++ (if isOn then "-" else "+") ++ "o " ++ name)

/-- Sets options and, behind them, the arguments. -/
def setAll : List String → Act Unit
  | [] => pure ()
  | "--" :: rest => modify fun sh => { sh with args := rest }
  | "-o" :: name :: rest => do
    setNamed true name
    setAll rest
  | "+o" :: name :: rest => do
    setNamed false name
    setAll rest
  | a :: rest =>
    match a.toList with
    | '-' :: c :: cs => do
      (c :: cs).forM (setOption true)
      setAll rest
    | '+' :: c :: cs => do
      (c :: cs).forM (setOption false)
      setAll rest
    | _ => modify fun sh => { sh with args := a :: rest }

/-- The name and the value, if any, of an argument that declares a variable. -/
def declared (a : String) : String × Option String :=
  let name := a.toList.takeWhile (· ≠ '=')
  match a.toList.drop name.length with
  | _ :: value => (String.ofList name, some (String.ofList value))
  | [] => (a, none)

/-- Exports variables. -/
def exportAll (args : List String) : Act Unit :=
  args.forM fun a => do
    let (name, value?) := declared a
    if !isName name.toList then giveUp ("export: " ++ name ++ ": bad variable name")
    if let some value := value? then modify fun sh => sh.assign name value
    modify fun sh => sh.exportName name

/-- Forgets variables or functions. -/
def unsetAll (args : List String) : Act Unit :=
  match args with
  | "-f" :: names => modify fun sh => { sh with functions := sh.functions.filter (·.1 ∉ names) }
  | _ =>
    (args.filter (· ≠ "-v")).forM fun name => do
      if !isName name.toList then giveUp ("unset: " ++ name ++ ": bad variable name")
      modify fun sh => { sh with environment := sh.environment.filter (·.name ≠ name) }

/-- Gives the fields of a line to variables; the last one gets all that is left. -/
def distribute : List String → List Char → Act Unit
  | [], _ => pure ()
  | [name], cs => modify fun sh =>
      sh.assign name (String.ofList (cs.reverse.dropWhile Arithmetic.isGap).reverse)
  | name :: names, cs => do
    let field := cs.takeWhile fun c => !Arithmetic.isGap c
    modify fun sh => sh.assign name (String.ofList field)
    distribute names ((cs.drop field.length).dropWhile Arithmetic.isGap)

/-- Reads a line of the input into variables. -/
def readInto (args : List String) : Act Unit := do
  let names := if args.head? = some "-r" then args.tail else args
  let input := (← get).input
  let line := input.takeWhile (· ≠ 10)
  modify fun sh => { sh with input := input.drop (line.length + 1) }
  distribute names ((Text.decode line).dropWhile Arithmetic.isGap)
  modify fun sh => { sh with status := if line.length < input.length then 0 else 1 }

/-- Runs a command of the shell that runs no other; says whether there is one. -/
def runPlain (name : String) (args : List String) : Act Bool := do
  let succeed : Act Bool := do
    modify fun sh => { sh with status := 0 }
    pure true
  let settle (s : Said) : Act Bool := do
    modify fun sh => sh.settleSaid name s
    pure true
  match name with
  | ":" | "true" | "wait" | "trap" | "umask" => succeed
  | "false" => settle ⟨1, [], []⟩
  | "echo" => settle (echo args)
  | "printf" => settle (printf args)
  | "test" => settle (Condition.said (← get).files args)
  | "[" => settle (Condition.saidInBrackets (← get).files args)
  | "pwd" => settle ⟨0, [], Text.encode (((← get).lookup "PWD").getD "" ++ "\n")⟩
  | "exit" =>
    let n ← countArg name args (← get).status
    modify fun sh => { sh with status := toStatus n }
    throw .exit
  | "return" =>
    let n ← countArg name args (← get).status
    modify fun sh => { sh with status := n }
    throw .fromFunction
  | "break" =>
    let n ← countArg name args 1
    if n = 0 then giveUp "break: Illegal number: 0"
    let loops := (← get).loops
    if loops = 0 then succeed
    else
      modify fun sh => { sh with status := 0 }
      throw (.breakOut (min n loops - 1))
  | "continue" =>
    let n ← countArg name args 1
    if n = 0 then giveUp "continue: Illegal number: 0"
    let loops := (← get).loops
    if loops = 0 then succeed
    else
      modify fun sh => { sh with status := 0 }
      throw (.goOn (min n loops - 1))
  | "shift" =>
    let n ← countArg name args 1
    if n > (← get).args.length then giveUp "shift: can't shift that many"
    modify fun sh => { sh with args := sh.args.drop n }
    succeed
  | "set" =>
    setAll args
    succeed
  | "export" | "readonly" =>
    exportAll args
    succeed
  | "unset" =>
    unsetAll args
    succeed
  | "read" =>
    readInto args
    pure true
  | _ => pure false

/-- Commands of the shell besides the special ones. -/
def otherCommands : List String :=
  ["true", "false", "echo", "printf", "test", "[", "pwd", "read", "wait", "umask", "command"]

/-- Says where a command is found. -/
def whereIs (sh : Shell) (name : String) : Said :=
  if name ∈ specialCommands || name ∈ otherCommands || (sh.functions.lookup name).isSome then
    ⟨0, [], Text.encode (name ++ "\n")⟩
  else if name = "sh" || (runTool sh.files [] name []).isSome then
    ⟨0, [], Text.encode ("/usr/bin/" ++ name ++ "\n")⟩
  else ⟨127, [], []⟩

end ArithCompiler.Process
