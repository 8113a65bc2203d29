import ArithCompiler.Process.Condition
import ArithCompiler.Process.RegularExpression
import ArithCompiler.Text.Numeral

/-!
# Tools

The programs that a host has besides the shell: a handful that write, show and
change files. A tool gets its arguments, its input and the files; it gives what it
writes to its two output streams in order, a status, and the files after it.
-/

namespace ArithCompiler.Process

/-- A piece of output and the stream it goes to. -/
structure Output where
  isError : Bool
  bytes : List UInt8
deriving DecidableEq, Repr

structure Finished where
  status : Nat
  output : List Output
  files : FileTree
deriving DecidableEq, Repr

/-- All that a program wrote. -/
def Finished.text (f : Finished) : String :=
  String.ofList (Text.decode (f.output.flatMap (·.bytes)))

/-- Statuses have eight bits. -/
def toStatus (n : Int) : Nat := (n % 256).toNat

/-- A tool that changes no file. -/
def wroteBytes (files : FileTree) (status : Nat) (bytes : List UInt8) : Finished :=
  ⟨status, if bytes.isEmpty then [] else [⟨false, bytes⟩], files⟩

def wrote (files : FileTree) (status : Nat) (text : String) : Finished :=
  wroteBytes files status (Text.encode text)

def failed (files : FileTree) (status : Nat) (text : String) : Finished :=
  ⟨status, [⟨true, Text.encode text⟩], files⟩

/-! ### Arguments -/

/-- A failure in the words of a tool. -/
def toolMessage (e : FileError) : String :=
  match e with
  | .missing => "No such file or directory"
  | .isDirectory => "Is a directory"
  | .notDirectory => "Not a directory"

/-- The failure of a tool that cannot use its arguments. -/
def misused (files : FileTree) (tool reason : String) : Finished :=
  failed files 1 (tool ++ ": " ++ reason ++ "\nTry '" ++ tool ++
    " --help' for more information.\n")

def isOption (s : String) : Bool := s.length > 1 && Text.startsWith s "-"

/-- The letters of the options, and the other arguments; two dashes end the
options. -/
def options : List String → List Char × List String
  | [] => ([], [])
  | "--" :: rest => ([], rest)
  | a :: rest =>
    let (letters, others) := options rest
    if isOption a then (a.toList.tail ++ letters, others) else (letters, a :: others)

/-- Runs a tool that knows some options on the others of its arguments. -/
def withOptions (files : FileTree) (tool known : String) (args : List String)
    (run : List Char → List String → Finished) : Finished :=
  let (letters, others) := options args
  match letters.find? fun c => c ∉ known.toList with
  | some c => misused files tool ("invalid option -- '" ++ c.toString ++ "'")
  | none => run letters others

/-- Goes on with the next path after a failure, which decides the status. -/
def forEach (files : FileTree) (paths : List String)
    (change : FileTree → String → Except String FileTree) : Finished :=
  paths.foldl (fun (f : Finished) path =>
    match change f.files path with
    | .ok files => { f with files := files }
    | .error message =>
      { f with status := 1, output := f.output ++ [⟨true, Text.encode (message ++ "\n")⟩] })
    ⟨0, [], files⟩

/-! ### Showing files -/

/-- Shows the contents of files, or of the input, in some form. -/
def showContents (files : FileTree) (input : List UInt8) (paths : List String)
    (complaint : String → FileError → String)
    (form : String → List UInt8 → List UInt8) : Finished :=
  let results := (if paths.isEmpty then ["-"] else paths).map fun path =>
    if path = "-" then (0, (⟨false, form "" input⟩ : Output))
    else
      match files.read path with
      | .ok content => (0, ⟨false, form path content⟩)
      | .error e => (1, ⟨true, Text.encode (complaint path e ++ "\n")⟩)
  ⟨(results.map (·.1)).foldl max 0, results.map (·.2), files⟩

def runCat (files : FileTree) (input : List UInt8) (args : List String) : Finished :=
  withOptions files "cat" "u" args fun _ paths =>
    showContents files input paths (fun path e => "cat: " ++ path ++ ": " ++ toolMessage e)
      fun _ content => content

/-- The lines of a content, each with its break. -/
def linesOf : List UInt8 → List (List UInt8)
  | [] => []
  | b :: rest =>
    if b = 10 then [b] :: linesOf rest
    else
      match linesOf rest with
      | [] => [[b]]
      | l :: ls => (b :: l) :: ls

/-- The count that an option gives, in lines or in bytes, and the paths. -/
def countOption : List String → Option (Nat × Bool) × List String
  | a :: rest =>
    let read (s : String) (bytes : Bool) : Option (Nat × Bool) :=
      (Text.readUnsigned (Nat.pow 2 63) s).toOption.map (·, bytes)
    match a.toList, rest with
    | ['-', 'n'], n :: rest => (read n false, rest)
    | ['-', 'c'], n :: rest => (read n true, rest)
    | '-' :: 'n' :: cs, _ => (read (String.ofList cs) false, rest)
    | '-' :: 'c' :: cs, _ => (read (String.ofList cs) true, rest)
    | '-' :: c :: cs, _ => (read (String.ofList (c :: cs)) false, rest)
    | _, _ => (some (10, false), a :: rest)
  | [] => (some (10, false), [])

/-- Shows the first or the last lines or bytes of a content. -/
def runEnds (files : FileTree) (input : List UInt8) (tool : String) (atStart : Bool)
    (args : List String) : Finished :=
  match countOption args with
  | (none, _) => misused files tool "invalid option"
  | (some (n, isBytes), paths) =>
    let keep {α : Type} (xs : List α) : List α :=
      if atStart then xs.take n else xs.drop (xs.length - n)
    showContents files input paths
      (fun path e => match e with
        | .isDirectory => tool ++ ": error reading '" ++ path ++ "': " ++ toolMessage e
        | _ => tool ++ ": cannot open '" ++ path ++ "' for reading: " ++ toolMessage e)
      fun _ content => if isBytes then keep content else (keep (linesOf content)).flatten

/-- The number of words in a text. -/
def countWords (cs : List Char) : Nat :=
  ((Text.pieces ' ' (cs.map fun c => if c.isWhitespace then ' ' else c)).filter
    (!·.isEmpty)).length

/-- Counts lines, words and bytes. -/
def runWc (files : FileTree) (input : List UInt8) (args : List String) : Finished :=
  withOptions files "wc" "lwcm" args fun letters paths =>
    showContents files input paths (fun path e => "wc: " ++ path ++ ": " ++ toolMessage e)
      fun path content =>
        let counts := [('l', content.count 10), ('w', countWords (Text.decode content)),
          ('m', (Text.decode content).length), ('c', content.length)]
        let chosen := counts.filter fun (c, _) =>
          if letters.isEmpty then c ≠ 'm' else c ∈ letters
        let width := if chosen.length < 2 then 0
          else if path = "" then 7
          else (toString content.length).length
        let numbers := chosen.map fun (_, n) =>
          let digits := toString n
          String.ofList (List.replicate (width - digits.length) ' ') ++ digits
        let name := if path = "" then [] else [path]
        Text.encode (String.intercalate " " (numbers ++ name) ++ "\n")

/-- Shows the lines in which an expression occurs. -/
def runGrep (files : FileTree) (input : List UInt8) (args : List String) : Finished :=
  let (letters, others) := options args
  match others with
  | [] => failed files 2 ("Usage: grep [OPTION]... PATTERNS [FILE]...\n" ++
      "Try 'grep --help' for more information.\n")
  | text :: paths =>
    let expression := if 'F' ∈ letters then RegularExpression.ofText text else .ofString text
    let chosen (content : List UInt8) : List (Nat × List Char) :=
      ((linesOf content).mapIdx fun i l => (i + 1, Text.decode (l.filter (· ≠ 10)))).filter
        fun (_, l) => expression.occursIn l != ('v' ∈ letters)
    let shown := showContents files input paths
      (fun path e => "grep: " ++ path ++ ": " ++ toolMessage e)
      fun path content =>
        let lead := if paths.length > 1 then path ++ ":" else ""
        let found := chosen content
        if 'c' ∈ letters then Text.encode (lead ++ toString found.length ++ "\n")
        else
          found.flatMap fun (n, l) =>
            Text.encode (lead ++ (if 'n' ∈ letters then toString n ++ ":" else "") ++
              String.ofList l ++ "\n")
    let contents := if paths.isEmpty then [input]
      else paths.filterMap fun p => (files.read p).toOption
    let isFound := contents.any fun content => !(chosen content).isEmpty
    let output := if 'q' ∈ letters then shown.output.filter (·.isError) else shown.output
    ⟨if shown.status ≠ 0 then 2 else if isFound then 0 else 1, output, files⟩

/-- Lists directories. -/
def runLs (files : FileTree) (args : List String) : Finished :=
  withOptions files "ls" "1A" args fun _ paths =>
    let paths := if paths.isEmpty then ["."] else paths
    let results := paths.map fun path =>
      match files.find path with
      | .error e =>
        (2, (⟨true, Text.encode ("ls: cannot access '" ++ path ++ "': " ++ toolMessage e ++ "\n")⟩ :
          Output))
      | .ok (_, .file _ _) => (0, ⟨false, Text.encode (path ++ "\n")⟩)
      | .ok (p, .directory) =>
        let names := (files.names p).filter fun n => !Text.startsWith n "."
        (0, ⟨false, Text.encode (String.join (names.map (· ++ "\n")))⟩)
    ⟨(results.map (·.1)).foldl max 0, results.map (·.2), files⟩

/-! ### Changing files -/

/-- Whether a mode lets the owner execute, leaves that as it is, or forbids it;
none if it is no mode. -/
def executableBy? (mode : String) : Option (Option Bool) :=
  let who := mode.toList.takeWhile fun c => c ∈ ['u', 'g', 'o', 'a']
  let forOwner := who.isEmpty || 'u' ∈ who || 'a' ∈ who
  match mode.toList.drop who.length with
  | sign :: rights =>
    if sign ∈ ['+', '-', '='] then
      if !rights.all fun c => c ∈ ['r', 'w', 'x', 'X', 's', 't'] then none
      else if !forOwner then some none
      else if sign = '=' then some (some ('x' ∈ rights))
      else some (if 'x' ∈ rights then some (sign = '+') else none)
    else if who.isEmpty && (sign :: rights).all (fun c => '0' ≤ c && c ≤ '7') then
      match (sign :: rights).reverse with
      | _ :: _ :: owner :: _ => some (some ((owner.toNat - 48) % 2 = 1))
      | _ => some (some false)
    else none
  | [] => none

def runChmod (files : FileTree) (args : List String) : Finished :=
  match args with
  | [] => misused files "chmod" "missing operand"
  | mode :: paths =>
    match executableBy? mode with
    | none => misused files "chmod" ("invalid mode: '" ++ mode ++ "'")
    | some change =>
      if paths.isEmpty then misused files "chmod" ("missing operand after '" ++ mode ++ "'")
      else
        forEach files paths fun files path =>
          let changed := match change with
            | none => (files.find path).map fun _ => files
            | some x => files.setExecutable path x
          changed.mapError fun e => "chmod: cannot access '" ++ path ++ "': " ++ toolMessage e

/-- Makes empty files where there is nothing. -/
def runTouch (files : FileTree) (args : List String) : Finished :=
  if args.isEmpty then misused files "touch" "missing file operand"
  else
    forEach files args fun files path =>
      if files.has path then .ok files
      else (files.write path []).mapError fun e =>
        "touch: cannot touch '" ++ path ++ "': " ++ toolMessage e

/-- Makes directories: in directories that are there, or with all that they are in. -/
def runMkdir (files : FileTree) (args : List String) : Finished :=
  withOptions files "mkdir" "p" args fun letters paths =>
    if paths.isEmpty then misused files "mkdir" "missing operand"
    else
      forEach files paths fun files path =>
        let refuse (reason : String) : Except String FileTree :=
          .error ("mkdir: cannot create directory '" ++ path ++ "': " ++ reason)
        if 'p' ∈ letters then
          let names := (Text.split '/' path).filter fun n => n ≠ "" && n ≠ "."
          let p := if Text.startsWith path "/" then FileTree.topName :: names else names
          match files.node? p with
          | some (.file _ _) => refuse "File exists"
          | _ => .ok (files.makeDirectory p)
        else
          match files.resolve path with
          | .error e => refuse (toolMessage e)
          | .ok p =>
            match files.node? p, files.node? p.dropLast with
            | some _, _ => refuse "File exists"
            | none, some .directory => .ok (files.setNode p .directory)
            | none, some (.file _ _) => refuse (toolMessage .notDirectory)
            | none, none => refuse (toolMessage .missing)

/-- The last name of a path. -/
def baseName (path : String) : String :=
  let cs := (path.toList.reverse.dropWhile (· = '/')).takeWhile (· ≠ '/')
  if cs.isEmpty && path ≠ "" then "/" else String.ofList cs.reverse

/-- A path without its last name. -/
def parentName (path : String) : String :=
  let cs := ((path.toList.reverse.dropWhile (· = '/')).dropWhile (· ≠ '/')).dropWhile (· = '/')
  if !cs.isEmpty then String.ofList cs.reverse
  else if Text.startsWith path "/" then "/"
  else "."

/-- Where something goes that is sent to a path: into a directory, or there. -/
def destination (files : FileTree) (source target : String) : String :=
  match files.find target with
  | .ok (_, .directory) => target ++ "/" ++ baseName source
  | _ => target

/-- The complaint about arguments that are not a source and a target. -/
def unpaired (files : FileTree) (tool : String) : List String → Finished
  | [] => misused files tool "missing file operand"
  | [source] =>
    misused files tool ("missing destination file operand after '" ++ source ++ "'")
  | paths => misused files tool ("target '" ++ paths.getLastD "" ++ "': Not a directory")

/-- Copies one file, with its permission. -/
def runCp (files : FileTree) (args : List String) : Finished :=
  withOptions files "cp" "fp" args fun _ paths =>
    match paths with
    | [source, target] =>
      let target := destination files source target
      match files.find source with
      | .error e =>
        failed files 1 ("cp: cannot stat '" ++ source ++ "': " ++ toolMessage e ++ "\n")
      | .ok (_, .directory) =>
        failed files 1 ("cp: -r not specified; omitting directory '" ++ source ++ "'\n")
      | .ok (p, .file content executable) =>
        if (files.resolve target).toOption = some p then
          failed files 1 ("cp: '" ++ source ++ "' and '" ++ target ++ "' are the same file\n")
        else
          let isNew := !files.has target
          match files.write target content with
          | .error e =>
            failed files 1 ("cp: cannot create regular file '" ++ target ++ "': " ++
              toolMessage e ++ "\n")
          | .ok files =>
            match if isNew then files.setExecutable target executable else .ok files with
            | .ok files => wrote files 0 ""
            | .error _ => wrote files 0 ""
    | _ => unpaired files "cp" paths

def runRm (files : FileTree) (args : List String) : Finished :=
  withOptions files "rm" "frR" args fun letters paths =>
    let isForced := 'f' ∈ letters
    if paths.isEmpty && !isForced then misused files "rm" "missing operand"
    else
      forEach files paths fun files path =>
        let refuse (e : FileError) : Except String FileTree :=
          .error ("rm: cannot remove '" ++ path ++ "': " ++ toolMessage e)
        match files.find path with
        | .ok (p, .directory) =>
          if 'r' ∈ letters || 'R' ∈ letters then .ok (files.remove p) else refuse .isDirectory
        | .ok (p, .file _ _) => .ok (files.remove p)
        | .error e => if isForced then .ok files else refuse e

/-- Moves one file, with its permission. -/
def runMv (files : FileTree) (args : List String) : Finished :=
  withOptions files "mv" "f" args fun _ paths =>
    match paths with
    | [source, target] =>
      let target := destination files source target
      match files.find source with
      | .error e =>
        failed files 1 ("mv: cannot stat '" ++ source ++ "': " ++ toolMessage e ++ "\n")
      | .ok (p, node) =>
        match files.write target [] with
        | .error e =>
          failed files 1 ("mv: cannot move '" ++ source ++ "' to '" ++ target ++ "': " ++
            toolMessage e ++ "\n")
        | .ok moved =>
          match moved.resolve target with
          | .ok q => wrote (if p = q then files else (moved.setNode q node).remove p) 0 ""
          | .error _ => wrote files 0 ""
    | _ => unpaired files "mv" paths

/-- Writes its input to files and shows it. -/
def runTee (files : FileTree) (input : List UInt8) (args : List String) : Finished :=
  withOptions files "tee" "a" args fun letters paths =>
    let written := forEach files paths fun files path =>
      let old := if 'a' ∈ letters then ((files.read path).toOption).getD [] else []
      (files.write path (old ++ input)).mapError fun e =>
        "tee: " ++ path ++ ": " ++ toolMessage e
    { written with output := written.output ++ [⟨false, input⟩] }

/-! ### Names -/

def runBaseName (files : FileTree) : List String → Finished
  | [] => misused files "basename" "missing operand"
  | [path] => wrote files 0 (baseName path ++ "\n")
  | path :: ending :: _ =>
    let name := baseName path
    let cut := (Text.dropEnd? ending name).getD name
    wrote files 0 ((if cut = "" then name else cut) ++ "\n")

def runParentName (files : FileTree) (args : List String) : Finished :=
  if args.isEmpty then misused files "dirname" "missing operand"
  else wrote files 0 (String.join (args.map fun path => parentName path ++ "\n"))

/-- What a command says as a program of its own. -/
def Said.asTool (files : FileTree) (tool : String) (s : Said) : Finished :=
  ⟨s.status, s.messages.map (fun m => ⟨true, Text.encode (tool ++ ": " ++ m ++ "\n")⟩) ++
    (if s.bytes.isEmpty then [] else [⟨false, s.bytes⟩]), files⟩

/-- Runs the tool with a name, if there is one. -/
def runTool (files : FileTree) (input : List UInt8) (name : String) (args : List String) :
    Option Finished :=
  match name with
  | "true" => some (wrote files 0 "")
  | "false" => some (wrote files 1 "")
  | "echo" => some (wrote files 0 (String.intercalate " " args ++ "\n"))
  | "printf" => some ((printf args).asTool files name)
  | "test" => some ((Condition.said files args).asTool files name)
  | "[" => some ((Condition.saidInBrackets files args).asTool files name)
  | "cat" => some (runCat files input args)
  | "head" => some (runEnds files input "head" true args)
  | "tail" => some (runEnds files input "tail" false args)
  | "wc" => some (runWc files input args)
  | "grep" => some (runGrep files input args)
  | "ls" => some (runLs files args)
  | "chmod" => some (runChmod files args)
  | "cp" => some (runCp files args)
  | "mv" => some (runMv files args)
  | "rm" => some (runRm files args)
  | "touch" => some (runTouch files args)
  | "mkdir" => some (runMkdir files args)
  | "tee" => some (runTee files input args)
  | "basename" => some (runBaseName files args)
  | "dirname" => some (runParentName files args)
  | "sleep" =>
    some (if args.isEmpty then misused files "sleep" "missing operand" else wrote files 0 "")
  | _ => none

end ArithCompiler.Process
