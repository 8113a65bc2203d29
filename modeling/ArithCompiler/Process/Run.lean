import ArithCompiler.Process.Builtin
import ArithCompiler.Process.Launch

/-!
# Running scripts

Commands are run on the state of a shell. First the words of a command are replaced
by what they stand for, then its streams are led elsewhere, then it runs. Commands
nest and repeat, so running takes fuel.
-/

namespace ArithCompiler.Process

/-- Runs something in a shell of its own, of which only the status, the output and
the files stay. -/
def inSubshell (act : Act Unit) : Act Unit := do
  let before ← get
  let (_, after) := act.run { before with loops := 0 }
  set { before with
    files := after.files, output := after.output, piped := after.piped,
    status := toStatus after.status, input := after.input }

/-- The bytes that something writes in a shell of its own. -/
def captured (act : Act Unit) : Act (List UInt8) := do
  let before ← get
  set { before with out := .pipe, piped := [] }
  inSubshell act
  let bytes := (← get).piped
  modify fun sh => { sh with out := before.out, piped := before.piped }
  pure bytes

/-- Runs the body of a loop; says whether the loop goes on. -/
def roundOf (act : Act Unit) : Act Bool := do
  modify fun sh => { sh with loops := sh.loops + 1 }
  let leave : Act Unit := modify fun sh => { sh with loops := sh.loops - 1 }
  try
    act
    leave
    pure true
  catch d =>
    leave
    match d with
    | .breakOut 0 => pure false
    | .breakOut (n + 1) => throw (.breakOut n)
    | .goOn 0 => pure true
    | .goOn (n + 1) => throw (.goOn n)
    | d => throw d

/-- Whether a pipeline is due after a status. -/
def Link.isDue (l : Link) (status : Nat) : Bool :=
  match l with
  | .always => true
  | .onSuccess => status = 0
  | .onFailure => status ≠ 0

/-- Whether the next pipeline looks at the status of this one. -/
def isLookedAt : Script → Bool
  | .mk link _ _ :: _ => link ≠ .always
  | [] => false

/-- Whether the failure of a pipeline can end a script. In the other forms of
commands it is the commands inside that do. -/
def canStop : List Command → Bool
  | [.simple _ _ _ _] | [.subshell _ _] => true
  | [_] => false
  | _ => true

/-- Puts the streams back to where they led in an earlier state. -/
def Shell.restored (sh before : Shell) : Shell :=
  { sh with out := before.out, err := before.err }

/-- Runs a program outside of the shell. -/
def runProgram (launch : Launch) (name : String) (args : List String) : Act Unit := do
  let sh ← get
  match launchAny launch sh.files sh.exported sh.input name args with
  | .ok f => set (sh.settle f)
  | .error e =>
    let (reason, status) := match e with
      | .denied _ => ("Permission denied", 126)
      | .badFormat _ => ("Exec format error", 126)
      | _ => ("not found", 127)
    set { sh.say (name ++ ": " ++ reason) with status := status }

/-! ### Scripts -/

mutual

/-- What a piece of a word stands for. -/
def pieceSpans (launch : Launch) (fuel : Nat) (p : Piece) : Act (List Span) := do
  match fuel with
  | 0 => throw .exit
  | fuel + 1 =>
    match p with
    | .literal cs isQuoted => pure [.text cs isQuoted false]
    | .output body isQuoted =>
      let bytes ← captured (runClauses launch fuel false body)
      modify fun sh => { sh with substituted := some sh.status }
      let cs := ((Text.decode bytes).reverse.dropWhile (· = '\n')).reverse
      pure [.text cs isQuoted (!isQuoted)]
    | .number expression isQuoted =>
      let text := (Span.pattern (← wordSpans launch fuel expression)).text
      let sh ← get
      match Arithmetic.evaluate (fun name => (sh.parameter? name).getD "") text with
      | .ok n => pure [.text (toString n).toList isQuoted (!isQuoted)]
      | .error e => giveUp (e.message text)
    | .parameter name use isQuoted =>
      let sh ← get
      let value? := sh.parameter? name
      let ofText (s : String) : List Span := [.text s.toList isQuoted (!isQuoted)]
      let isThere (emptyToo : Bool) : Bool := value?.any fun v => !(emptyToo && v = "")
      let shown : List Span :=
        if name = "@" && isQuoted then
          (sh.args.map fun a => [Span.text a.toList true false]).intersperse [.gap] |>.flatten
        else ofText (value?.getD "")
      let instead (word : Word) : Act (List Span) := do
        let spans ← wordSpans launch fuel word
        pure (if isQuoted then .text [] true false :: spans else spans.map Span.cuttable)
      match use with
      | .value =>
        if value?.isNone && sh.needsValues && name ∉ ["@", "*"] then
          giveUp (name ++ ": parameter not set")
        pure shown
      | .length => pure (ofText (toString (value?.getD "").length))
      | .orElse emptyToo word => if isThere emptyToo then pure shown else instead word
      | .ifSet emptyToo word => instead (if isThere emptyToo then word else [])
      | .orAssign emptyToo word =>
        if isThere emptyToo then pure shown
        else
          let text := (Span.pattern (← wordSpans launch fuel word)).text
          modify fun sh => sh.assign name text
          pure (ofText text)
      | .orFail emptyToo word =>
        if isThere emptyToo then pure shown
        else
          let text := (Span.pattern (← wordSpans launch fuel word)).text
          giveUp (name ++ ": " ++
            (if text ≠ "" then text
            else if emptyToo then "parameter not set or null"
            else "parameter not set"))
      | .withoutStart longest pattern =>
        let p := Span.pattern (← wordSpans launch fuel pattern)
        pure (ofText (String.ofList (p.cutStart longest (value?.getD "").toList)))
      | .withoutEnd longest pattern =>
        let p := Span.pattern (← wordSpans launch fuel pattern)
        pure (ofText (String.ofList (p.cutEnd longest (value?.getD "").toList)))
termination_by structural fuel

def wordSpans (launch : Launch) (fuel : Nat) (w : Word) : Act (List Span) := do
  match fuel with
  | 0 => throw .exit
  | fuel + 1 =>
    match w with
    | [] => pure []
    | p :: rest =>
      let first ← pieceSpans launch fuel p
      pure (first ++ (← wordSpans launch fuel rest))
termination_by structural fuel

/-- The one text that a word stands for. -/
def wordText (launch : Launch) (fuel : Nat) (w : Word) : Act String := do
  match fuel with
  | 0 => throw .exit
  | fuel + 1 => pure (Span.pattern (← wordSpans launch fuel w)).text
termination_by structural fuel

/-- The fields that words stand for. -/
def wordFields (launch : Launch) (fuel : Nat) (ws : List Word) : Act (List String) := do
  match fuel with
  | 0 => throw .exit
  | fuel + 1 =>
    match ws with
    | [] => pure []
    | w :: rest =>
      let fields := Span.fields (← wordSpans launch fuel w)
      let files := (← get).files
      pure (fields.flatMap (Pattern.paths files) ++ (← wordFields launch fuel rest))
termination_by structural fuel

/-- Carries out redirections; gives the message of the first that fails. -/
def redirect (launch : Launch) (fuel : Nat) (rs : List Redirection) : Act (Option String) := do
  match fuel with
  | 0 => throw .exit
  | fuel + 1 =>
    match rs with
    | [] => pure none
    | r :: rest =>
      let route ← match r with
        | .toFile stream appending target => do
          pure (Route.toFile stream appending (← wordText launch fuel target))
        | .toStream stream other => pure (.toStream stream other)
        | .fromFile target => do pure (.fromFile (← wordText launch fuel target))
        | .fromText text => do pure (.fromText (← wordText launch fuel text))
      match (← get).follow route with
      | .error message => pure (some message)
      | .ok sh =>
        set sh
        redirect launch fuel rest
termination_by structural fuel

/-- Runs something with redirections, if they can be carried out. -/
def redirected (launch : Launch) (fuel : Nat) (rs : List Redirection) (act : Act Unit) :
    Act Unit := do
  match fuel with
  | 0 => throw .exit
  | fuel + 1 =>
    let before ← get
    let restore : Act Unit := modify fun sh =>
      let sh := sh.restored before
      if rs.isEmpty then sh else { sh with input := before.input }
    match ← redirect launch fuel rs with
    | some message =>
      restore
      modify fun sh => { sh.say message with status := 2 }
    | none =>
      try
        act
        restore
      catch d =>
        restore
        throw d
termination_by structural fuel

/-- Assigns values to variables. -/
def assignAll (launch : Launch) (fuel : Nat) (assigned : List (String × Word)) : Act Unit := do
  match fuel with
  | 0 => throw .exit
  | fuel + 1 =>
    match assigned with
    | [] => pure ()
    | (name, w) :: rest =>
      let value ← wordText launch fuel w
      modify fun sh => sh.assign name value
      assignAll launch fuel rest
termination_by structural fuel

/-- Runs the commands that a text holds, line by line. -/
def runSource (launch : Launch) (fuel : Nat) (isTested : Bool) (source : Source) : Act Unit := do
  match fuel with
  | 0 => throw .exit
  | fuel + 1 =>
    match readLine source with
    | .error (line, fault) =>
      modify fun sh => { sh with line := line }
      giveUp fault.message
    | .ok (script, next) =>
      runClauses launch fuel isTested script
      if !next.rest.isEmpty then runSource launch fuel isTested next
termination_by structural fuel

/-- Runs a command by its fields. -/
def runNamed (launch : Launch) (fuel : Nat) (isTested : Bool) (name : String)
    (args : List String) : Act Unit := do
  match fuel with
  | 0 => throw .exit
  | fuel + 1 =>
    let functions := (← get).functions
    match if name ∈ specialCommands then none else functions.lookup name with
    | some body =>
      let before := (← get).args
      modify fun sh => { sh with args := args }
      let restore : Act Unit := modify fun sh => { sh with args := before }
      try
        runCommand launch fuel isTested body
        restore
      catch d =>
        restore
        if d ≠ .fromFunction then throw d
    | none =>
      match name, args with
      | "eval", _ =>
        modify fun sh => { sh with status := 0 }
        runSource launch fuel isTested (.ofText (String.intercalate " " args))
      | ".", path :: _ =>
        match (← get).files.read path with
        | .ok content =>
          modify fun sh => { sh with status := 0 }
          runSource launch fuel isTested (.ofText (String.ofList (Text.decode content)))
        | .error _ => giveUp (".: cannot open " ++ path ++ ": No such file")
      | "command", ["-v", next] => modify fun sh => sh.settleSaid name (whereIs sh next)
      | "command", next :: rest => runNamed launch fuel isTested next rest
      | "exec", next :: rest =>
        let sh ← get
        match launchAny launch sh.files sh.exported sh.input next rest with
        | .ok f => set (sh.settle f)
        | .error (.denied _) =>
          set { sh.say ("exec: " ++ next ++ ": Permission denied") with status := 126 }
        | .error _ => set { sh.say ("exec: " ++ next ++ ": not found") with status := 127 }
        throw .exit
      | _, _ =>
        if !(← runPlain name args) then runProgram launch name args
termination_by structural fuel

/-- Runs a command. One whose status is looked at does not end the script. -/
def runCommand (launch : Launch) (fuel : Nat) (isTested : Bool) (c : Command) : Act Unit := do
  match fuel with
  | 0 => throw .exit
  | fuel + 1 =>
    match c with
    | .simple line assigned words rs =>
      modify fun sh => { sh with line := line, substituted := none }
      match ← wordFields launch fuel words with
      | [] =>
        redirected launch fuel rs do
          assignAll launch fuel assigned
          modify fun sh => { sh with status := sh.substituted.getD 0 }
      | ["exec"] =>
        match ← redirect launch fuel rs with
        | some message => giveUp message
        | none => modify fun sh => { sh with status := 0 }
      | name :: args =>
        let before := (← get).environment
        let act : Act Unit := do
          assignAll launch fuel assigned
          assigned.forM fun (k, _) => modify fun sh => sh.exportName k
          runNamed launch fuel isTested name args
          if !assigned.isEmpty && name ∉ specialCommands then
            modify fun sh => { sh with environment := before }
        if name ∈ specialCommands then
          let start ← get
          match ← redirect launch fuel rs with
          | some message => giveUp message
          | none =>
            act
            modify fun sh => sh.restored start
        else redirected launch fuel rs act
    | .group body rs => redirected launch fuel rs (runClauses launch fuel isTested body)
    | .subshell body rs =>
      redirected launch fuel rs (inSubshell (runClauses launch fuel isTested body))
    | .branch arms otherwise rs =>
      redirected launch fuel rs (runBranch launch fuel isTested arms otherwise)
    | .loop isUntil condition body rs =>
      redirected launch fuel rs (runLoop launch fuel isTested isUntil condition body 0)
    | .forEach line name words body rs =>
      modify fun sh => { sh with line := line }
      let values ← match words with
        | some ws => wordFields launch fuel ws
        | none => do pure (← get).args
      redirected launch fuel rs do
        modify fun sh => { sh with status := 0 }
        runEach launch fuel isTested name values body
    | .select subject arms rs =>
      let text ← wordText launch fuel subject
      redirected launch fuel rs do
        modify fun sh => { sh with status := 0 }
        runSelect launch fuel isTested text.toList arms
    | .function name body =>
      modify fun sh => { sh with functions := (name, body) :: sh.functions, status := 0 }
termination_by structural fuel

/-- Runs the first arm whose condition holds. -/
def runBranch (launch : Launch) (fuel : Nat) (isTested : Bool) (arms : List (Script × Script))
    (otherwise : Script) : Act Unit := do
  match fuel with
  | 0 => throw .exit
  | fuel + 1 =>
    match arms with
    | [] =>
      modify fun sh => { sh with status := 0 }
      runClauses launch fuel isTested otherwise
    | (condition, body) :: rest =>
      runClauses launch fuel true condition
      if (← get).status = 0 then runClauses launch fuel isTested body
      else runBranch launch fuel isTested rest otherwise
termination_by structural fuel

/-- Runs a body for as long as a condition holds, or does not hold. -/
def runLoop (launch : Launch) (fuel : Nat) (isTested isUntil : Bool) (condition body : Script)
    (status : Nat) : Act Unit := do
  match fuel with
  | 0 => throw .exit
  | fuel + 1 =>
    let goesOn ← roundOf do
      runClauses launch fuel true condition
      if ((← get).status = 0) = isUntil then
        modify fun sh => { sh with status := status }
        throw (.breakOut 0)
      runClauses launch fuel isTested body
    if goesOn then runLoop launch fuel isTested isUntil condition body (← get).status
termination_by structural fuel

/-- Runs a body for each of some values of a variable. -/
def runEach (launch : Launch) (fuel : Nat) (isTested : Bool) (name : String)
    (values : List String) (body : Script) : Act Unit := do
  match fuel with
  | 0 => throw .exit
  | fuel + 1 =>
    match values with
    | [] => pure ()
    | v :: rest =>
      modify fun sh => sh.assign name v
      if ← roundOf (runClauses launch fuel isTested body) then
        runEach launch fuel isTested name rest body
termination_by structural fuel

/-- Runs the first arm with a pattern that fits. -/
def runSelect (launch : Launch) (fuel : Nat) (isTested : Bool) (text : List Char)
    (arms : List (List Word × Script)) : Act Unit := do
  match fuel with
  | 0 => throw .exit
  | fuel + 1 =>
    match arms with
    | [] => pure ()
    | ([], _) :: rest => runSelect launch fuel isTested text rest
    | (w :: ws, body) :: rest =>
      if (Span.pattern (← wordSpans launch fuel w)).fits text then
        runClauses launch fuel isTested body
      else runSelect launch fuel isTested text ((ws, body) :: rest)
termination_by structural fuel

/-- Runs the stages of a pipeline, each on what the one before it wrote. -/
def runStages (launch : Launch) (fuel : Nat) (stages : List Command) : Act Unit := do
  match fuel with
  | 0 => throw .exit
  | fuel + 1 =>
    match stages with
    | [] => pure ()
    | [last] => inSubshell (runCommand launch fuel false last)
    | stage :: rest =>
      let bytes ← captured (runCommand launch fuel false stage)
      modify fun sh => { sh with input := bytes }
      runStages launch fuel rest
termination_by structural fuel

/-- Runs pipelines one after another. -/
def runClauses (launch : Launch) (fuel : Nat) (isTested : Bool) (script : Script) : Act Unit := do
  match fuel with
  | 0 => throw .exit
  | fuel + 1 =>
    match script with
    | [] => pure ()
    | .mk link isNegated stages :: rest =>
      if link.isDue (← get).status then
        let isTested' := isTested || isNegated || isLookedAt rest
        match stages with
        | [c] => runCommand launch fuel isTested' c
        | _ =>
          let input := (← get).input
          runStages launch fuel stages
          modify fun sh => { sh with input := input }
        if isNegated then
          modify fun sh => { sh with status := if sh.status = 0 then 1 else 0 }
        let sh ← get
        if sh.stopsOnFailure && !isTested' && sh.status ≠ 0 && canStop stages then throw .exit
      runClauses launch fuel isTested rest
termination_by structural fuel

end

end ArithCompiler.Process
