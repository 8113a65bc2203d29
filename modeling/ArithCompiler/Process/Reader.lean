import ArithCompiler.Process.Script

/-!
# Reading scripts

A script is read line by line, so that a line can run before the next one is
looked at. What belongs together, such as a condition and its branches, is read as
a whole. A text behind a command is taken from the lines that follow.
-/

namespace ArithCompiler.Process

/-- Why a script cannot be read. -/
inductive ScriptFault where
  | unexpected (found : String) (expected : Option String)
  | openQuote
  | openBackquote
  | openBrace
  | openNumber
  | badSubstitution
  | badLoopName
  | badFunctionName
deriving DecidableEq, Repr

def ScriptFault.message : ScriptFault → String
  | .unexpected found none => "Syntax error: " ++ found ++ " unexpected"
  | .unexpected found (some e) => "Syntax error: " ++ found ++ " unexpected (expecting " ++ e ++ ")"
  | .openQuote => "Syntax error: Unterminated quoted string"
  | .openBackquote => "Syntax error: EOF in backquote substitution"
  | .openBrace => "Syntax error: Missing '\x7d'"
  | .openNumber => "Syntax error: Missing '))'"
  | .badSubstitution => "Bad substitution"
  | .badLoopName => "Syntax error: Bad for loop variable"
  | .badFunctionName => "Syntax error: Bad function name"

/-- What is left of a script. -/
structure Source where
  rest : List Char
  line : Nat
  /-- The lines that were taken from behind the present one. -/
  taken : Nat
deriving DecidableEq, Repr

def Source.ofText (text : String) : Source := ⟨text.toList, 1, 0⟩

/-- Reading fails at a line. -/
abbrev Read := StateT Source (Except (Nat × ScriptFault))

namespace Read

def fail {α : Type} (fault : ScriptFault) : Read α := do
  throw ((← get).line, fault)

def rest : Read (List Char) := do pure (← get).rest

/-- Passes some characters. -/
def skip (n : Nat) : Read Unit :=
  modify fun s =>
    match (s.rest.take n).count '\n' with
    | 0 => { s with rest := s.rest.drop n }
    | lines => ⟨s.rest.drop n, s.line + lines + s.taken, 0⟩

/-- Reads a text apart from what is left of the script. -/
def apart {α : Type} (text : List Char) (r : Read α) : Read α := do
  let s ← get
  set { s with rest := text, taken := 0 }
  let result ← r
  set s
  pure result

/-! ### Signs -/

/-- The number of blanks, escaped breaks and characters of a comment in front. -/
def blanks : List Char → Nat
  | '\\' :: '\n' :: rest => 2 + blanks rest
  | '#' :: rest => 1 + (rest.takeWhile (· ≠ '\n')).length
  | c :: rest => if isBlank c then 1 + blanks rest else 0
  | [] => 0

def skipBlanks : Read Unit := do skip (blanks (← rest))

/-- Passes blanks and breaks. -/
def skipLines : (fuel : Nat) → Read Unit
  | 0 => pure ()
  | fuel + 1 => do
    skipBlanks
    if (← rest).head? == some '\n' then
      skip 1
      skipLines fuel

def skipGap : Read Unit := do skipLines ((← rest).length + 1)

/-- Words with a meaning of their own where a command may start. -/
def reservedWords : List String :=
  ["if", "then", "elif", "else", "fi", "do", "done", "case", "esac", "while", "until", "for", "in",
    "!", "\x7b", "\x7d"]

/-- Reserved words that end a list of commands. -/
def closingWords : List String := ["then", "elif", "else", "fi", "do", "done", "esac", "\x7d"]

def operators : List String := ["&&", "||", ";;", ";", "&", "|", "(", ")"]

/-- The operator at the front. -/
def operator? (cs : List Char) : Option String :=
  operators.find? fun o => o.toList.isPrefixOf cs

/-- The word at the front as it is written. -/
def rawWord (cs : List Char) : String := String.ofList (cs.takeWhile fun c => !endsWord c)

def isStreamSign (c : Char) : Bool := c == '<' || c == '>'

/-- Whether a redirection is at the front, with or without the number of a stream. -/
def startsRedirection (cs : List Char) : Bool :=
  cs.head?.any isStreamSign || (cs.head?.any Char.isDigit && cs.tail.head?.any isStreamSign)

/-- The sign at the front in the words of a message. -/
def signName (atCommand : Bool) (cs : List Char) : String :=
  match cs with
  | [] => "end of file"
  | '\n' :: _ => "newline"
  | _ =>
    if startsRedirection cs then "redirection"
    else
      match operator? cs with
      | some o => "\"" ++ o ++ "\""
      | none =>
        if atCommand && rawWord cs ∈ reservedWords then "\"" ++ rawWord cs ++ "\"" else "word"

def unexpected {α : Type} (atCommand : Bool) (expected : Option String) : Read α := do
  fail (.unexpected (signName atCommand (← rest)) (expected.map fun e => "\"" ++ e ++ "\""))

def atReserved (w : String) : Read Bool := do pure (rawWord (← rest) == w)

/-- Passes a reserved word that has to be there. -/
def expectReserved (w : String) : Read Unit := do
  if ← atReserved w then skip w.length else unexpected true (some w)

def atOperator (o : String) : Read Bool := do pure (operator? (← rest) == some o)

def expectOperator (o : String) : Read Unit := do
  if ← atOperator o then skip o.length else unexpected true (some o)

/-- Whether what is in front ends a list of commands. -/
def atListEnd : Read Bool := do
  let cs ← rest
  pure (cs.isEmpty || operator? cs ∈ [some ")", some ";;"] || rawWord cs ∈ closingWords)

/-! ### Words -/

/-- Where a part of a word stands. -/
inductive Context where
  | bare
  /-- In double quotes. -/
  | quoted
  /-- In a text where quotes mean nothing. -/
  | text
  /-- Between the braces of a parameter. -/
  | braced (isQuoted : Bool)
deriving DecidableEq, Repr

namespace Context

def isQuoted : Context → Bool
  | .bare => false
  | .quoted => true
  | .text => true
  | .braced q => q

def endsAt (c : Char) : Context → Bool
  | .bare => endsWord c
  | .quoted => c == '"'
  | .text => false
  | .braced _ => c == '\x7d'

/-- Whether a backslash takes the meaning from a character and disappears. -/
def escapes (c : Char) : Context → Bool
  | .bare | .braced false => true
  | .quoted => c ∈ ['$', '\x60', '"', '\\']
  | .text => c ∈ ['$', '\x60', '\\']
  | .braced true => c ∈ ['$', '\x60', '"', '\\', '\x7d']

end Context

/-- A piece behind others; literal text is joined. -/
def addPiece (w : Word) (p : Piece) : Word :=
  match p, w.getLast? with
  | .literal b q, some (.literal a r) =>
    if q = r then w.dropLast ++ [.literal (a ++ b) q] else w ++ [p]
  | _, _ => w ++ [p]

/-- Parameters named by one character that is no letter. -/
def specialNames : List Char := ['#', '@', '*', '?', '$', '!', '-']

/-- The name of a parameter at the front; without braces a number has one digit. -/
def nameAt (inBraces : Bool) (cs : List Char) : List Char :=
  match cs with
  | c :: _ =>
    if isNameStart c then cs.takeWhile isNameChar
    else if c.isDigit then (if inBraces then cs.takeWhile Char.isDigit else [c])
    else if c ∈ specialNames then [c]
    else []
  | [] => []

/-- The text between backquotes, and its length with the closing one. -/
def backquoted (isQuoted : Bool) : (done : List Char) → (size : Nat) → List Char →
    Option (List Char × Nat)
  | _, _, [] => none
  | done, size, '\\' :: c :: cs =>
    let isEscaped := c ∈ ['$', '\x60', '\\'] || (isQuoted && c == '"')
    backquoted isQuoted (done ++ if isEscaped then [c] else ['\\', c]) (size + 2) cs
  | done, size, c :: cs =>
    if c == '\x60' then some (done, size + 1) else backquoted isQuoted (done ++ [c]) (size + 1) cs

/-- The text up to two closing parentheses that nothing in it has opened. -/
def numberText : (depth : Nat) → (done : List Char) → List Char → Option (List Char)
  | _, _, [] => none
  | 0, done, ')' :: ')' :: _ => some done
  | 0, _, ')' :: _ => none
  | depth + 1, done, ')' :: cs => numberText depth (done ++ [')']) cs
  | depth, done, '(' :: cs => numberText (depth + 1) (done ++ ['(']) cs
  | depth, done, c :: cs => numberText depth (done ++ [c]) cs

/-- Whether a use has a pattern, in which quotes have a meaning of their own. -/
def hasPattern : Use → Bool
  | .withoutStart _ _ | .withoutEnd _ _ => true
  | _ => false

/-- What follows the name of a parameter in braces: its use for a word, and the
length of the sign. -/
def useSign? : List Char → Option ((Word → Use) × Nat)
  | ':' :: '-' :: _ => some (.orElse true, 2)
  | '-' :: _ => some (.orElse false, 1)
  | ':' :: '=' :: _ => some (.orAssign true, 2)
  | '=' :: _ => some (.orAssign false, 1)
  | ':' :: '+' :: _ => some (.ifSet true, 2)
  | '+' :: _ => some (.ifSet false, 1)
  | ':' :: '?' :: _ => some (.orFail true, 2)
  | '?' :: _ => some (.orFail false, 1)
  | '#' :: '#' :: _ => some (.withoutStart true, 2)
  | '#' :: _ => some (.withoutStart false, 1)
  | '%' :: '%' :: _ => some (.withoutEnd true, 2)
  | '%' :: _ => some (.withoutEnd false, 1)
  | _ => none

/-- The lines of a text up to its delimiter with their number, the line of the
delimiter included, and what follows. -/
def textBefore (dropTabs : Bool) (delimiter : List Char) : (fuel : Nat) → (done : List Char) →
    (lines : Nat) → List Char → List Char × Nat × List Char
  | 0, done, lines, cs => (done, lines, cs)
  | fuel + 1, done, lines, cs =>
    if cs.isEmpty then (done, lines, [])
    else
      let cs := if dropTabs then cs.dropWhile (· == '\t') else cs
      let line := cs.takeWhile (· ≠ '\n')
      let after := cs.drop line.length
      if line = delimiter then (done, lines + 1, after.drop 1)
      else
        textBefore dropTabs delimiter fuel (done ++ line ++ after.take 1) (lines + 1) (after.drop 1)

/-- Takes a text from the lines behind the present one. -/
def takeText (dropTabs : Bool) (delimiter : List Char) : Read (List Char) := do
  let s ← get
  let present := s.rest.takeWhile (· ≠ '\n')
  let after := s.rest.drop (present.length + 1)
  let (text, lines, after) := textBefore dropTabs delimiter (after.length + 1) [] 0 after
  set { s with rest := present ++ '\n' :: after, taken := s.taken + lines }
  pure text

/-- The name that a word assigns to, and the value. -/
def assignment? (w : Word) : Option (String × Word) :=
  match w with
  | .literal cs false :: more =>
    let name := cs.takeWhile isNameChar
    match cs.drop name.length with
    | '=' :: value =>
      if isName name then
        some (String.ofList name, if value.isEmpty then more else .literal value false :: more)
      else none
    | _ => none
  | _ => none

mutual

/-- The pieces of a word up to the end of its context. -/
def pieces (fuel : Nat) (context : Context) (done : Word) : Read Word := do
  match fuel with
  | 0 => pure done
  | fuel + 1 =>
    let isQuoted := context.isQuoted
    match ← rest with
    | [] =>
      match context with
      | .quoted => fail .openQuote
      | .braced _ => fail .openBrace
      | _ => pure done
    | c :: more =>
      if context.endsAt c then pure done
      else if c = '\\' then
        match more with
        | [] =>
          skip 1
          pure (addPiece done (.literal ['\\'] true))
        | '\n' :: _ =>
          skip 2
          pieces fuel context done
        | d :: _ =>
          skip 2
          pieces fuel context
            (addPiece done (.literal (if context.escapes d then [d] else ['\\', d]) true))
      else if c = '$' then
        let p ← dollar fuel isQuoted
        pieces fuel context (addPiece done p)
      else if c = '\x60' then
        match backquoted isQuoted [] 0 more with
        | none => fail .openBackquote
        | some (text, size) =>
          let body ← apart text (list fuel true true [])
          skip (size + 1)
          pieces fuel context (addPiece done (.output body isQuoted))
      else if c = '\x27' && !isQuoted then
        let text := more.takeWhile (· ≠ '\x27')
        if text.length = more.length then fail .openQuote
        else
          skip (text.length + 2)
          pieces fuel context (addPiece done (.literal text true))
      else if c = '"' && context ≠ .text then
        skip 1
        if isQuoted then pieces fuel context done
        else
          let inner ← pieces fuel .quoted []
          skip 1
          pieces fuel context
            ((if inner.isEmpty then [.literal [] true] else inner).foldl addPiece done)
      else
        skip 1
        pieces fuel context (addPiece done (.literal [c] isQuoted))
termination_by structural fuel

/-- What a dollar sign stands for. -/
def dollar (fuel : Nat) (isQuoted : Bool) : Read Piece := do
  match fuel with
  | 0 => fail .badSubstitution
  | fuel + 1 =>
    match ← rest with
    | '$' :: '(' :: '(' :: more =>
      match numberText 0 [] more with
      | none => fail .openNumber
      | some text =>
        let expression ← apart text (pieces fuel .text [])
        skip (text.length + 5)
        pure (.number expression isQuoted)
    | '$' :: '(' :: _ =>
      skip 2
      let body ← list fuel true true []
      expectOperator ")"
      pure (.output body isQuoted)
    | '$' :: '\x7b' :: '#' :: more =>
      let name := nameAt true more
      if !name.isEmpty && (more.drop name.length).head? == some '\x7d' then
        skip (name.length + 4)
        pure (.parameter (String.ofList name) .length isQuoted)
      else
        skip 2
        braced fuel isQuoted
    | '$' :: '\x7b' :: _ =>
      skip 2
      braced fuel isQuoted
    | _ :: more =>
      let name := nameAt false more
      skip (name.length + 1)
      pure (if name.isEmpty then .literal ['$'] isQuoted
        else .parameter (String.ofList name) .value isQuoted)
    | [] => fail .badSubstitution
termination_by structural fuel

/-- A parameter between braces, behind the opening one. -/
def braced (fuel : Nat) (isQuoted : Bool) : Read Piece := do
  match fuel with
  | 0 => fail .badSubstitution
  | fuel + 1 =>
    let name := nameAt true (← rest)
    if name.isEmpty then fail .badSubstitution
    else
      skip name.length
      match ← rest with
      | [] => fail .openBrace
      | '\x7d' :: _ =>
        skip 1
        pure (.parameter (String.ofList name) .value isQuoted)
      | cs =>
        match useSign? cs with
        | none => fail .badSubstitution
        | some (use, size) =>
          skip size
          let word ← pieces fuel (.braced (isQuoted && !hasPattern (use []))) []
          skip 1
          pure (.parameter (String.ofList name) (use word) isQuoted)
termination_by structural fuel

/-- A redirection. -/
def redirection (fuel : Nat) : Read Redirection := do
  match fuel with
  | 0 => unexpected false none
  | fuel + 1 =>
    let stream := ((← rest).head?.filter Char.isDigit).map fun c => c.toNat - 48
    if stream.isSome then skip 1
    let target : Read Word := do
      skipBlanks
      if (← rest).head?.all endsWord then unexpected false none
      pieces fuel .bare []
    match ← rest with
    | '>' :: '&' :: _ =>
      skip 2
      skipBlanks
      match ← rest with
      | c :: _ =>
        if c.isDigit then
          skip 1
          pure (.toStream (stream.getD 1) (c.toNat - 48))
        else unexpected false none
      | [] => unexpected false none
    | '>' :: '>' :: _ =>
      skip 2
      pure (.toFile (stream.getD 1) true (← target))
    | '>' :: '|' :: _ =>
      skip 2
      pure (.toFile (stream.getD 1) false (← target))
    | '>' :: _ =>
      skip 1
      pure (.toFile (stream.getD 1) false (← target))
    | '<' :: '<' :: more =>
      let dropTabs := more.head? == some '-'
      skip (if dropTabs then 3 else 2)
      skipBlanks
      let raw := (rawWord (← rest)).toList
      if raw.isEmpty then unexpected false none
      skip raw.length
      let isQuote (c : Char) : Bool := c ∈ ['\x27', '"', '\\']
      let text ← takeText dropTabs (raw.filter fun c => !isQuote c)
      if raw.any isQuote then pure (.fromText [.literal text true])
      else pure (.fromText (← apart text (pieces fuel .text [])))
    | _ =>
      skip 1
      pure (.fromFile (← target))
termination_by structural fuel

def redirections (fuel : Nat) (done : List Redirection) : Read (List Redirection) := do
  match fuel with
  | 0 => pure done
  | fuel + 1 =>
    skipBlanks
    if startsRedirection (← rest) then redirections fuel (done ++ [← redirection fuel])
    else pure done
termination_by structural fuel

/-- The words of a simple command, or the function that they turn out to define. -/
def simple (fuel line : Nat) (assigned : List (String × Word)) (words : List Word)
    (reds : List Redirection) : Read Command := do
  match fuel with
  | 0 => unexpected false none
  | fuel + 1 =>
    skipBlanks
    let cs ← rest
    if startsRedirection cs then simple fuel line assigned words (reds ++ [← redirection fuel])
    else if cs.head? == some '(' then
      match assigned, words, reds with
      | [], [[.literal name false]], [] =>
        skip 1
        skipBlanks
        if !(← atOperator ")") then unexpected false (some ")")
        skip 1
        if !isName name then fail .badFunctionName
        skipGap
        pure (.function (String.ofList name) (← command fuel))
      | _, _, _ => unexpected false none
    else if cs.head?.all endsWord then pure (.simple line assigned words reds)
    else
      let w ← pieces fuel .bare []
      match if words.isEmpty then assignment? w else none with
      | some a => simple fuel line (assigned ++ [a]) words reds
      | none => simple fuel line assigned (words ++ [w]) reds
termination_by structural fuel

/-- The arms of a condition, behind its first word. -/
def branches (fuel : Nat) (done : List (Script × Script)) :
    Read (List (Script × Script) × Script) := do
  match fuel with
  | 0 => unexpected true (some "fi")
  | fuel + 1 =>
    let condition ← list fuel true false []
    expectReserved "then"
    let body ← list fuel true false []
    let done := done ++ [(condition, body)]
    if ← atReserved "elif" then
      skip 4
      branches fuel done
    else if ← atReserved "else" then
      skip 4
      let otherwise ← list fuel true false []
      expectReserved "fi"
      pure (done, otherwise)
    else
      expectReserved "fi"
      pure (done, [])
termination_by structural fuel

/-- The words of a loop up to the end of their line. -/
def loopWords (fuel : Nat) (done : List Word) : Read (List Word) := do
  match fuel with
  | 0 => pure done
  | fuel + 1 =>
    skipBlanks
    let cs ← rest
    match cs with
    | '\n' :: _ => pure done
    | ';' :: _ =>
      if operator? cs == some ";" then
        skip 1
        pure done
      else unexpected false none
    | _ =>
      if cs.head?.all endsWord then unexpected false none
      else loopWords fuel (done ++ [← pieces fuel .bare []])
termination_by structural fuel

/-- The patterns of an arm up to the parenthesis. -/
def armPatterns (fuel : Nat) (done : List Word) : Read (List Word) := do
  match fuel with
  | 0 => pure done
  | fuel + 1 =>
    skipBlanks
    if (← rest).head?.all endsWord then unexpected false (some ")")
    else
      let w ← pieces fuel .bare []
      skipBlanks
      if ← atOperator "|" then
        skip 1
        armPatterns fuel (done ++ [w])
      else if ← atOperator ")" then
        skip 1
        pure (done ++ [w])
      else unexpected false (some ")")
termination_by structural fuel

/-- The arms of a selection up to its last word. -/
def arms (fuel : Nat) (done : List (List Word × Script)) : Read (List (List Word × Script)) := do
  match fuel with
  | 0 => pure done
  | fuel + 1 =>
    skipGap
    if ← atReserved "esac" then
      skip 4
      pure done
    else
      if ← atOperator "(" then skip 1
      let patterns ← armPatterns fuel []
      let body ← list fuel true true []
      if ← atOperator ";;" then
        skip 2
        arms fuel (done ++ [(patterns, body)])
      else if ← atReserved "esac" then
        skip 4
        pure (done ++ [(patterns, body)])
      else unexpected true (some ";;")
termination_by structural fuel

/-- A command with its redirections. -/
def command (fuel : Nat) : Read Command := do
  match fuel with
  | 0 => unexpected true none
  | fuel + 1 =>
    skipBlanks
    let line := (← get).line
    let cs ← rest
    if operator? cs == some "(" then
      skip 1
      let body ← list fuel true false []
      expectOperator ")"
      pure (.subshell body (← redirections fuel []))
    else
      match rawWord cs with
      | "\x7b" =>
        skip 1
        let body ← list fuel true false []
        expectReserved "\x7d"
        pure (.group body (← redirections fuel []))
      | "if" =>
        skip 2
        let (all, otherwise) ← branches fuel []
        pure (.branch all otherwise (← redirections fuel []))
      | "for" =>
        skip 3
        skipBlanks
        let name := rawWord (← rest)
        if !isName name.toList then fail .badLoopName
        skip name.length
        skipGap
        let words ← if ← atReserved "in" then do
            skip 2
            pure (some (← loopWords fuel []))
          else do
            if ← atOperator ";" then skip 1
            pure none
        skipGap
        expectReserved "do"
        let body ← list fuel true false []
        expectReserved "done"
        pure (.forEach line name words body (← redirections fuel []))
      | "case" =>
        skip 4
        skipBlanks
        if (← rest).head?.all endsWord then unexpected false (some "word")
        let subject ← pieces fuel .bare []
        skipGap
        expectReserved "in"
        let all ← arms fuel []
        pure (.select subject all (← redirections fuel []))
      | w =>
        if w = "while" || w = "until" then
          skip 5
          let condition ← list fuel true false []
          expectReserved "do"
          let body ← list fuel true false []
          expectReserved "done"
          pure (.loop (w = "until") condition body (← redirections fuel []))
        else if w ∈ reservedWords && w ≠ "in" then unexpected true none
        else if startsRedirection cs || !cs.head?.all endsWord then simple fuel line [] [] []
        else unexpected true none
termination_by structural fuel

/-- The stages of a pipeline. -/
def stages (fuel : Nat) (done : List Command) : Read (List Command) := do
  match fuel with
  | 0 => pure done
  | fuel + 1 =>
    let done := done ++ [← command fuel]
    skipBlanks
    if ← atOperator "|" then
      skip 1
      skipGap
      stages fuel done
    else pure done
termination_by structural fuel

/-- Pipelines that depend on each other. -/
def chain (fuel : Nat) (link : Link) (done : Script) : Read Script := do
  match fuel with
  | 0 => pure done
  | fuel + 1 =>
    skipBlanks
    let isNegated ← atReserved "!"
    if isNegated then skip 1
    let done := done ++ [.mk link isNegated (← stages fuel [])]
    let onward (link : Link) : Read Script := do
      skip 2
      skipGap
      chain fuel link done
    if ← atOperator "&&" then onward .onSuccess
    else if ← atOperator "||" then onward .onFailure
    else pure done
termination_by structural fuel

/-- A list of commands: one that is inside another command, or a line. -/
def list (fuel : Nat) (isInner mayEnd : Bool) (done : Script) : Read Script := do
  match fuel with
  | 0 => pure done
  | fuel + 1 =>
    if isInner then skipGap else skipBlanks
    let cs ← rest
    if cs.isEmpty then pure done
    else if cs.head? == some '\n' then
      skip 1
      pure done
    else if isInner && mayEnd && (← atListEnd) then pure done
    else
      let done ← chain fuel .always done
      let cs ← rest
      if cs.isEmpty then pure done
      else if cs.head? == some '\n' then list fuel isInner true done
      else if operator? cs == some ";" || operator? cs == some "&" then
        skip 1
        list fuel isInner true done
      else if isInner then pure done
      else unexpected true none
termination_by structural fuel

end

end Read

/-- Reads a line of a script: its commands and what is left. -/
def readLine (s : Source) : Except (Nat × ScriptFault) (Script × Source) :=
  (Read.list (8 * s.rest.length + 16) false false []).run s

end ArithCompiler.Process
