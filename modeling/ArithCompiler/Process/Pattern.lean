import ArithCompiler.Files

/-!
# Patterns

A pattern is a text in which some characters have a meaning if they are not
quoted: `*` fits any text, `?` any character, and brackets fit one character of a
class. Patterns choose branches, cut values at either end and stand for the names
of files.
-/

namespace ArithCompiler.Process

/-- A character, and whether it was quoted. -/
structure Mark where
  char : Char
  isQuoted : Bool
deriving DecidableEq, Repr

abbrev Pattern := List Mark

namespace Pattern

/-- Text that stands for itself. -/
def quoted (cs : List Char) : Pattern := cs.map (⟨·, true⟩)

def text (p : Pattern) : String := String.ofList (p.map (·.char))

def isSign (m : Mark) (c : Char) : Bool := !m.isQuoted && m.char == c

/-- Whether a class of characters, up to its bracket, holds one. -/
def classHas (c : Char) : Pattern → Bool
  | a :: dash :: b :: rest =>
    (if isSign dash '-' then a.char ≤ c && c ≤ b.char else a.char == c) ||
      classHas c (dash :: b :: rest)
  | a :: rest => a.char == c || classHas c rest
  | [] => false

/-- The class behind an opening bracket: whether it is turned round, its members,
and what follows; none without a closing bracket. -/
def bracket? (p : Pattern) : Option (Bool × Pattern × Pattern) :=
  let (negated, p) := match p with
    | m :: rest => if isSign m '!' || isSign m '^' then (true, rest) else (false, p)
    | [] => (false, p)
  let first := p.take 1
  let more := (p.drop 1).takeWhile fun m => !isSign m ']'
  match p.drop (1 + more.length) with
  | [] => none
  | _ :: rest => some (negated, first ++ more, rest)

/-- Whether a pattern fits a whole text; fuel is the length of both. -/
def fitsWithin : (fuel : Nat) → Pattern → List Char → Bool
  | 0, p, cs => p.isEmpty && cs.isEmpty
  | _, [], cs => cs.isEmpty
  | fuel + 1, m :: rest, cs =>
    if isSign m '*' then
      fitsWithin fuel rest cs ||
        match cs with
        | [] => false
        | _ :: more => fitsWithin fuel (m :: rest) more
    else
      match cs with
      | [] => false
      | c :: more =>
        if isSign m '?' then fitsWithin fuel rest more
        else
          match if isSign m '[' then bracket? rest else none with
          | some (negated, members, rest) =>
            (classHas c members != negated) && fitsWithin fuel rest more
          | none => m.char == c && fitsWithin fuel rest more

def fits (p : Pattern) (cs : List Char) : Bool := fitsWithin (p.length + cs.length + 1) p cs

/-! ### Cutting -/

/-- A text without its shortest or longest start that a pattern fits. -/
def cutStart (p : Pattern) (longest : Bool) (cs : List Char) : List Char :=
  let sizes := List.range (cs.length + 1)
  match (if longest then sizes.reverse else sizes).find? fun n => p.fits (cs.take n) with
  | some n => cs.drop n
  | none => cs

/-- A text without its shortest or longest end that a pattern fits. -/
def cutEnd (p : Pattern) (longest : Bool) (cs : List Char) : List Char :=
  let sizes := List.range (cs.length + 1)
  match (if longest then sizes else sizes.reverse).find? fun n => p.fits (cs.drop n) with
  | some n => cs.take n
  | none => cs

/-! ### Names of files -/

def hasSign (p : Pattern) : Bool := p.any fun m => isSign m '*' || isSign m '?' || isSign m '['

/-- The parts of a pattern between slashes. -/
def parts : Pattern → List Pattern
  | [] => [[]]
  | m :: rest =>
    if m.char == '/' then [] :: parts rest
    else
      match parts rest with
      | first :: more => (m :: first) :: more
      | [] => [[m]]

/-- The paths below a path that fit parts of a pattern. -/
def pathsBelow (files : FileTree) : (path : String) → List Pattern → List String
  | path, [] => [path]
  | path, part :: rest =>
    let onward (name : String) : List String :=
      let next := path ++ name
      if rest.isEmpty then (if files.has next then [next] else [])
      else pathsBelow files (next ++ "/") rest
    if part.hasSign then
      match files.resolve (if path = "" then "." else path) with
      | .error _ => []
      | .ok p =>
        let shown := (files.names p).filter fun n =>
          part.fits n.toList && (!Text.startsWith n "." || part.head?.any (·.char == '.'))
        shown.flatMap onward
    else onward part.text

/-- The paths that a pattern stands for; without any, it is a text. -/
def paths (files : FileTree) (p : Pattern) : List String :=
  if p.hasSign then
    match pathsBelow files "" p.parts with
    | [] => [p.text]
    | found => found
  else [p.text]

end Pattern

end ArithCompiler.Process
