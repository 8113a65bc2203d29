import ArithCompiler.Cli.Flags

/-!
# Commands

The first operand is the name of a command (`SPEC_FULL.md` §16), if there is one of that name;
otherwise the program itself is meant. The name is looked for before the flags
are known to be right, with the rule that a flag takes up the next argument
unless it is a switch or holds an equals sign.
-/

namespace ArithCompiler.Cli

inductive CommandName where
  | root
  | compile
  | run
  | tokens
  | tree
  | config
deriving DecidableEq, Repr

namespace CommandName

def text : CommandName → String
  | .root => "calcc"
  | .compile => "compile"
  | .run => "run"
  | .tokens => "tokens"
  | .tree => "tree"
  | .config => "config"

def named : List CommandName := [.compile, .run, .tokens, .tree, .config]

def ofText? (s : String) : Option CommandName := named.find? (·.text = s)

end CommandName

/-! ### Flags of commands -/

def configFlag : FlagSpec := textFlag "config" ""

def logLevelFlag : FlagSpec := textFlag "log-level" "warn"

def logFormatFlag : FlagSpec := textFlag "log-format" "console"

def functionFlag : FlagSpec := textFlag "function" "main"

def pointersFlag : FlagSpec := textFlag "pointers" "opaque"

def dumpTreeFlag : FlagSpec := textFlag "dump-tree" "none"

def engineFlag : FlagSpec := textFlag "engine" "clang"

def ccFlag : FlagSpec := textFlag "cc" "clang"

def keepFlag : FlagSpec := ⟨"keep", some 'k', "false", true⟩

/-- The flags that every command has. -/
def commonFlags : List FlagSpec :=
  [configFlag, logLevelFlag, logFormatFlag, functionFlag, pointersFlag, dumpTreeFlag]

/-- The flags of a command. -/
def CommandName.flags : CommandName → List FlagSpec
  | .run => commonFlags ++ [engineFlag, ccFlag, keepFlag]
  | _ => commonFlags

/-- The settings that the flags of a command stand for. -/
def CommandName.bindings (c : CommandName) : List (String × String) :=
  [("log.level", "log-level"), ("log.format", "log-format"), ("ir.function", "function"),
    ("ir.pointers", "pointers"), ("dump.tree", "dump-tree")] ++
  (if c = .run then [("toolchain.cc", "cc"), ("toolchain.keep", "keep")] else [])

/-! ### Finding the command -/

/-- Whether an argument is a flag that takes up the next one. -/
def takesNext (specs : List FlagSpec) (arg : String) : Bool :=
  match arg.toList with
  | '-' :: '-' :: body =>
    '=' ∉ body && !specs.any fun s => s.isSwitch && s.name = String.ofList body
  | ['-', c] => c ≠ '=' && !specs.any fun s => s.isSwitch && s.letter = some c
  | _ => false

/-- The first operand. A flag that takes up the next argument ends the search if
fewer than two arguments are left. -/
def firstOperand? (specs : List FlagSpec) (fuel : Nat) (args : List String) : Option String :=
  match fuel, args with
  | 0, _ => none
  | _, [] => none
  | fuel + 1, arg :: rest =>
    if arg = "--" then none
    else if takesNext specs arg then
      if rest.length ≤ 1 then none else firstOperand? specs fuel rest.tail
    else if arg ≠ "" && !Text.startsWith arg "-" then some arg
    else firstOperand? specs fuel rest

/-- The command that is meant, and its arguments. -/
def findCommand (args : List String) : CommandName × List String :=
  match firstOperand? commonFlags args.length args with
  | none => (.root, args)
  | some name =>
    match CommandName.ofText? name with
    | none => (.root, args)
    | some c => (c, args.erase name)

/-! ### Arguments of commands -/

inductive ArgsError where
  | flag (e : FlagError)
  | tooMany (count : Nat)
  | notTaken (c : CommandName) (operand : String)
deriving DecidableEq, Repr

def ArgsError.message : ArgsError → String
  | .flag e => e.message
  | .tooMany count => "accepts at most 1 arg(s), received " ++ toString count
  | .notTaken c operand =>
    "unknown command " ++ Text.quote operand ++ " for " ++
      Text.quote (CommandName.root.text ++ " " ++ c.text)

/-- A command with its flags and at most one operand. -/
structure Invocation where
  command : CommandName
  parsed : Parsed
  operand : Option String
deriving DecidableEq, Repr

/-- Reads a command line. -/
def Invocation.ofArgs (args : List String) : Except ArgsError Invocation :=
  let (c, args) := findCommand args
  match parseFlags c.flags args with
  | .error e => .error (.flag e)
  | .ok p =>
    match p.operands with
    | [] => .ok ⟨c, p, none⟩
    | operand :: rest =>
      if c = .config then .error (.notTaken c operand)
      else if rest = [] then .ok ⟨c, p, some operand⟩
      else .error (.tooMany p.operands.length)

end ArithCompiler.Cli
