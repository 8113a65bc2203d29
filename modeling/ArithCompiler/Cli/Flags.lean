import ArithCompiler.Config.Load

/-!
# Flags

Arguments are flags and operands in any order; `--` ends the flags. A flag has a
long name and perhaps a one-letter name. Its value follows after `=` or is the
next argument; a switch has a value only after `=`. One-letter switches can be
written together.
-/

namespace ArithCompiler.Cli

structure FlagSpec where
  name : String
  letter : Option Char
  initial : String
  /-- Whether the flag is a switch. -/
  isSwitch : Bool
deriving DecidableEq, Repr

/-- A flag with a text for its value. -/
def textFlag (name initial : String) : FlagSpec := ⟨name, none, initial, false⟩

inductive FlagError where
  | unknown (name : String)
  | unknownLetter (letter : Char) (letters : String)
  | noValue (arg : String)
  | noValueLetter (letter : Char) (letters : String)
  | badForm (arg : String)
  | badSwitch (value : String) (spec : FlagSpec)
deriving DecidableEq, Repr

def FlagError.message : FlagError → String
  | .unknown name => "unknown flag: --" ++ name
  | .unknownLetter letter letters =>
    "unknown shorthand flag: " ++ Text.quoteChar letter ++ " in -" ++ letters
  | .noValue arg => "flag needs an argument: " ++ arg
  | .noValueLetter letter letters =>
    "flag needs an argument: " ++ Text.quoteChar letter ++ " in -" ++ letters
  | .badForm arg => "bad flag syntax: " ++ arg
  | .badSwitch value spec =>
    let shown := match spec.letter with
      | some c => "-" ++ c.toString ++ ", --" ++ spec.name
      | none => "--" ++ spec.name
    "invalid argument " ++ Text.quote value ++ " for " ++ Text.quote shown ++
      " flag: strconv.ParseBool: parsing " ++ Text.quote value ++ ": invalid syntax"

/-- The flags that were given, the last one first, and the operands. -/
structure Parsed where
  given : List (String × String)
  operands : List String
deriving DecidableEq, Repr

namespace Parsed

/-- The value of a flag, if it was given. -/
def given? (p : Parsed) (name : String) : Option String := p.given.lookup name

def value (p : Parsed) (spec : FlagSpec) : String := (p.given? spec.name).getD spec.initial

/-- Gives a flag a value. Switches take truth values only. -/
def give (p : Parsed) (spec : FlagSpec) (value : String) : Except FlagError Parsed :=
  if spec.isSwitch then
    match Config.bool? value with
    | some b => .ok { p with given := (spec.name, toString b) :: p.given }
    | none => .error (.badSwitch value spec)
  else .ok { p with given := (spec.name, value) :: p.given }

end Parsed

/-- A name and the text after the first equals sign, if there is one. -/
def splitValue (cs : List Char) : String × Option String :=
  let name := cs.takeWhile (· ≠ '=')
  match cs.drop name.length with
  | [] => (String.ofList name, none)
  | _ :: value => (String.ofList name, some (String.ofList value))

/-- A flag by its long name: what follows the dashes, and the arguments after it. -/
def takeLong (specs : List FlagSpec) (p : Parsed) (body : List Char) (rest : List String) :
    Except FlagError (Parsed × List String) :=
  let arg := "--" ++ String.ofList body
  if body.isEmpty || body.head? = some '-' || body.head? = some '=' then .error (.badForm arg)
  else
    let (name, value?) := splitValue body
    match specs.find? (·.name = name) with
    | none => .error (.unknown name)
    | some spec =>
      match value? with
      | some value => (p.give spec value).map fun p => (p, rest)
      | none =>
        if spec.isSwitch then (p.give spec "true").map fun p => (p, rest)
        else
          match rest with
          | value :: rest => (p.give spec value).map fun p => (p, rest)
          | [] => .error (.noValue arg)

/-- The first byte of a character's encoding, as a character. -/
def firstByte (c : Char) : Char :=
  match Text.encode c.toString with
  | b :: _ => Char.ofNat b.toNat
  | [] => c

/-- Flags by letter: what follows the dash, and the arguments after it. -/
def takeLetters (specs : List FlagSpec) (p : Parsed) (rest : List String) :
    List Char → Except FlagError (Parsed × List String)
  | [] => .ok (p, rest)
  | c :: cs =>
    let letters := String.ofList (c :: cs)
    if Text.startsWith letters "test." then .ok (p, rest)
    else
      match specs.find? (·.letter = some c) with
      | none => .error (.unknownLetter (firstByte c) letters)
      | some spec =>
        match cs with
        | '=' :: v :: value =>
          (p.give spec (String.ofList (v :: value))).map fun p => (p, rest)
        | _ =>
          if spec.isSwitch then
            match p.give spec "true" with
            | .error e => .error e
            | .ok p => takeLetters specs p rest cs
          else if !cs.isEmpty then (p.give spec (String.ofList cs)).map fun p => (p, rest)
          else
            match rest with
            | value :: rest => (p.give spec value).map fun p => (p, rest)
            | [] => .error (.noValueLetter c letters)

/-- Sorts arguments into flags and operands. -/
def parseArgs (specs : List FlagSpec) (fuel : Nat) (p : Parsed) (args : List String) :
    Except FlagError Parsed :=
  match fuel, args with
  | 0, _ => .ok p
  | _, [] => .ok p
  | fuel + 1, arg :: rest =>
    match arg.toList with
    | ['-', '-'] => .ok { p with operands := p.operands ++ rest }
    | '-' :: '-' :: body =>
      match takeLong specs p body rest with
      | .error e => .error e
      | .ok (p, rest) => parseArgs specs fuel p rest
    | '-' :: c :: cs =>
      match takeLetters specs p rest (c :: cs) with
      | .error e => .error e
      | .ok (p, rest) => parseArgs specs fuel p rest
    | _ => parseArgs specs fuel { p with operands := p.operands ++ [arg] } rest

/-- The flags and operands of a command line. -/
def parseFlags (specs : List FlagSpec) (args : List String) : Except FlagError Parsed :=
  parseArgs specs args.length ⟨[], []⟩ args

/-! ### Flags as settings -/

/-- The flag that stands for a setting. -/
def boundFlag (p : Parsed) (spec : FlagSpec) (key : String) : Config.BoundFlag :=
  let value := p.value spec
  ⟨Text.lower key, (p.given? spec.name).isSome,
    if spec.isSwitch then .bool (value = "true") else .text value⟩

/-- Binds settings to flags by name. -/
def bind (specs : List FlagSpec) (p : Parsed) :
    List (String × String) → Except Config.SourceError (List Config.BoundFlag)
  | [] => .ok []
  | (key, name) :: rest =>
    match specs.find? (·.name = name) with
    | none => .error (.noFlag name key)
    | some spec => (bind specs p rest).map (boundFlag p spec key :: ·)

end ArithCompiler.Cli
