import ArithCompiler.Config.Scalar
import ArithCompiler.Config.Yaml.Cursor
import ArithCompiler.Config.Yaml.Fault

/-!
# Blocks of text

A block is a scalar of whole lines, deeper than what it is in. A literal block
keeps its breaks; in a folded one a single break between lines that do not start
blank is a space. A mark behind its sign says how deep the lines are and what
happens to the breaks at its end.
-/

namespace ArithCompiler.Config.Yaml

/-- What happens to the breaks at the end of a block. -/
inductive Chomping where
  | strip
  | clip
  | keep
deriving DecidableEq, Repr

/-! ### Header -/

def chomping? : Option Char → Option Chomping
  | some '+' => some .keep
  | some '-' => some .strip
  | _ => none

/-- The digit of an indentation; zero is none. -/
def indentation (start : Nat) (c : Cursor) : Except Fault (Nat × Cursor) :=
  match c.head? with
  | some a =>
    if a == '0' then .error (.ofToken .zeroIndentation start c.line)
    else if Scalar.isDigit a then .ok (a.toNat - 48, c.skip 1)
    else .ok (0, c)
  | none => .ok (0, c)

structure Header where
  chomping : Chomping
  /-- How much deeper the lines are; zero if that is not said. -/
  depth : Nat

/-- Reads the marks behind the sign of a block, in either order, and the rest of
their line. -/
def readHeader (start : Nat) (c : Cursor) : Except Fault (Header × Cursor) := do
  let (header, c) ← match chomping? c.head? with
    | some chomping => do
      let (depth, c) ← indentation start (c.skip 1)
      pure (⟨chomping, depth⟩, c)
    | none => do
      let (depth, c) ← indentation start c
      match (if depth = 0 then none else chomping? c.head?) with
      | some chomping => pure (⟨chomping, depth⟩, c.skip 1)
      | none => pure (⟨.clip, depth⟩, c)
  let c := (c.skipWhile isBlank).skipComment
  if c.head?.all isBreak then pure (header, c.nextLine)
  else .error (.ofToken .noLineEnd start c.line)

/-! ### Lines -/

/-- Passes empty lines, and the indentation of the line behind them. Gives their
breaks and the widest indentation. Column zero stands for one that is not known
yet. -/
def readMargin (start column : Nat) :
    (fuel : Nat) → (breaks : List Char) → (widest : Nat) → Cursor →
      Except Fault (List Char × Nat × Cursor)
  | 0, breaks, widest, c => .ok (breaks, widest, c)
  | fuel + 1, breaks, widest, c =>
    let spaces := (c.rest.takeWhile isSpace).length
    let c := c.skip (if column = 0 then spaces else min spaces (column - c.column))
    let widest := max widest c.column
    if (column = 0 || c.column < column) && c.head? == some '\t' then
      .error (.ofToken .tabInIndentation start c.line)
    else
      match c.lineEnd? with
      | none => .ok (breaks, widest, c)
      | some (b, next) => readMargin start column fuel (breaks ++ b) widest next

/-- A block under construction. -/
structure Lines where
  text : List Char
  /-- The break behind the last line. -/
  last : List Char
  /-- The breaks of the empty lines behind it. -/
  empty : List Char
  /-- Whether the last line starts blank. -/
  startsBlank : Bool

/-- Puts the breaks in front of a line that starts with a blank or not. -/
def Lines.join (ls : Lines) (isFolded nextBlank : Bool) : List Char :=
  if isFolded && !ls.startsBlank && !nextBlank && ls.last = ['\n'] then
    ls.text ++ (if ls.empty.isEmpty then [' '] else []) ++ ls.empty
  else ls.text ++ ls.last ++ ls.empty

/-- Reads the lines of a block that start in a column. -/
def readLines (start : Nat) (isFolded : Bool) (column : Nat) :
    (fuel : Nat) → Lines → Cursor → Except Fault (Lines × Cursor)
  | 0, ls, c => .ok (ls, c)
  | fuel + 1, ls, c =>
    if c.column ≠ column || c.rest.isEmpty then .ok (ls, c)
    else
      let blank := c.head?.any isBlank
      let joined := ls.join isFolded blank
      let (line, c) := c.takeWhile fun a => !isBreak a
      let (last, c) := c.lineEnd?.getD ([], c)
      match readMargin start column (c.rest.length + 1) [] 0 c with
      | .error e => .error e
      | .ok (empty, _, c) => readLines start isFolded column fuel ⟨joined ++ line, last, empty, blank⟩ c

/-- The text of a block. -/
def Lines.finish (ls : Lines) : Chomping → List Char
  | .strip => ls.text
  | .clip => ls.text ++ ls.last
  | .keep => ls.text ++ ls.last ++ ls.empty

/-- Reads a block from behind its sign, inside something indented by `indent`. -/
def readBlock (isFolded : Bool) (indent : Int) (c : Cursor) :
    Except Fault (List Char × Cursor) := do
  let start := c.line
  let (header, c) ← readHeader start c
  let known := if header.depth = 0 then 0 else (max indent 0).toNat + header.depth
  let (empty, widest, c) ← readMargin start known (c.rest.length + 1) [] 0 c
  let column := if known = 0 then max (max widest (indent + 1).toNat) 1 else known
  let (ls, c) ← readLines start isFolded column (c.rest.length + 1) ⟨[], [], empty, false⟩ c
  pure (ls.finish header.chomping, c)

end ArithCompiler.Config.Yaml
