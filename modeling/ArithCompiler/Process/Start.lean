import ArithCompiler.Process.Run

/-!
# Running programs

A program is found by name among the tools, or by path in the file tree. A file
that can be executed is a shell script with a first line that says so. Programs
start each other, so this takes fuel: the depth to which they may do so.
-/

namespace ArithCompiler.Process

/-- The number of steps to which the commands of a script may nest or repeat. -/
def stepLimit : Nat := 20000

/-- The arguments of the shell itself. -/
structure Invocation where
  /-- The letters of the options. -/
  letters : List Char
  /-- Whether the script is an argument. -/
  takesText : Bool
  rest : List String
deriving DecidableEq, Repr

def shellLetters : List Char :=
  ['a', 'b', 'C', 'e', 'E', 'f', 'i', 'I', 'l', 'm', 'n', 's', 'u', 'v', 'V', 'x']

/-- Reads the arguments of the shell; fails with a message. -/
def invocation : List String → Except String Invocation
  | [] => .ok ⟨[], false, []⟩
  | a :: rest =>
    match a.toList with
    | ['-'] | ['-', '-'] => .ok ⟨[], false, rest⟩
    | '-' :: cs =>
      match cs.find? fun c => c ∉ shellLetters && c ≠ 'c' with
      | some 'o' =>
        .error ("Illegal option -o" ++ (rest.head?.map (" " ++ ·)).getD "")
      | some c => .error ("Illegal option -" ++ c.toString)
      | none => do
        let i ← invocation rest
        pure { i with letters := cs ++ i.letters, takesText := i.takesText || 'c' ∈ cs }
    | _ => .ok ⟨[], false, a :: rest⟩

/-- Runs the text of a script under options. -/
def runText (launch : Launch) (files : FileTree) (environment : List (String × String))
    (input : List UInt8) (letters : List Char) (name : String) (args : List String)
    (text : String) : Finished :=
  let sh : Shell :=
    { files := files, environment := environment.map fun (k, v) => ⟨k, v, true⟩, name := name
      args := args, status := 0, functions := [], out := .stream false, err := .stream true
      input := input, output := [], piped := [], line := 1, loops := 0, substituted := none
      stopsOnFailure := 'e' ∈ letters, needsValues := 'u' ∈ letters }
  let (_, sh) := (runSource launch stepLimit false (.ofText text)).run sh
  ⟨toStatus sh.status, sh.output, sh.files⟩

/-- The shell itself, under a name: a script as an argument, in a file or as input. -/
def runShell (launch : Launch) (files : FileTree) (environment : List (String × String))
    (input : List UInt8) (name : String) (args : List String) : Finished :=
  let refuse (message : String) : Finished := failed files 2 (name ++ ": 0: " ++ message ++ "\n")
  match invocation args with
  | .error message => refuse message
  | .ok i =>
    match i.takesText, i.rest with
    | true, [] => refuse "-c requires an argument"
    | true, text :: rest =>
      runText launch files environment input i.letters (rest.headD name) rest.tail text
    | false, [] =>
      runText launch files environment [] i.letters name [] (String.ofList (Text.decode input))
    | false, path :: rest =>
      match files.read path with
      | .ok content =>
        runText launch files environment input i.letters path rest
          (String.ofList (Text.decode content))
      | .error _ => refuse ("cannot open " ++ path ++ ": No such file")

/-! ### Programs -/

/-- The places of the shell. -/
def shellPaths : List String := ["/bin/sh", "/usr/bin/sh"]

/-- The interpreter that the first line of a file names, and its argument. -/
def interpreter? (content : List UInt8) : Option (String × List String) :=
  match Text.decode content with
  | '#' :: '!' :: rest =>
    let line := (rest.takeWhile (· ≠ '\n')).dropWhile isBlank
    let name := String.ofList (line.takeWhile fun c => !isBlank c)
    let after := (line.dropWhile fun c => !isBlank c).dropWhile isBlank
    let arg := String.ofList (after.reverse.dropWhile isBlank).reverse
    if name = "/usr/bin/env" && arg = "sh" then some ("/bin/sh", [])
    else some (name, if arg = "" then [] else [arg])
  | _ => none

/-- The tool at a path of the system. -/
def systemTool? (path : String) : Option String :=
  match Text.dropStart? "/usr/bin/" path with
  | some name => some name
  | none => Text.dropStart? "/bin/" path

/-- Starts a program by name or path and runs it to its end. -/
def start (fuel : Nat) : Launch := fun files environment input name args =>
  match fuel with
  | 0 => .error (.unknown name)
  | fuel + 1 =>
    let launch := start fuel
    if '/' ∉ name.toList then
      if name = "sh" then .ok (runShell launch files environment input name args)
      else
        match runTool files input name args with
        | some f => .ok f
        | none => .error (.unknown name)
    else if name ∈ shellPaths then .ok (runShell launch files environment input name args)
    else
      match (systemTool? name).bind fun tool => runTool files input tool args with
      | some f => .ok f
      | none =>
        match files.find name with
        | .error .notDirectory => .error (.notDirectory name)
        | .error _ => .error (.missing name)
        | .ok (_, .directory) => .error (.denied name)
        | .ok (_, .file _ false) => .error (.denied name)
        | .ok (_, .file content true) =>
          match interpreter? content with
          | none => .error (.badFormat name)
          | some (i, own) =>
            if i ∈ shellPaths then
              .ok (runShell launch files environment input i (own ++ name :: args))
            else .error (.missing name)

/-- The depth to which programs may start each other. -/
def depthLimit : Nat := 64

end ArithCompiler.Process
