import ArithCompiler.Process.Pattern

/-!
# Regular expressions

Basic regular expressions: characters, any character, classes, repetition of one of
these, and the two ends of a line.
-/

namespace ArithCompiler.Process

/-- What fits one character. -/
inductive Atom where
  | char (c : Char)
  | any
  | oneOf (negated : Bool) (members : Pattern)
deriving DecidableEq, Repr

def Atom.fits (c : Char) : Atom → Bool
  | .char d => c == d
  | .any => true
  | .oneOf negated members => Pattern.classHas c members != negated

/-- An atom, and whether it may be repeated or left out. -/
structure Part where
  atom : Atom
  isRepeated : Bool
deriving DecidableEq, Repr

/-- A regular expression. -/
structure RegularExpression where
  atStart : Bool
  units : List Part
  atEnd : Bool
deriving DecidableEq, Repr

namespace RegularExpression

/-- The atom at the front, and the rest. -/
def atom (cs : List Char) : Option (Atom × List Char) :=
  match cs with
  | [] => none
  | '\\' :: c :: rest => some (.char c, rest)
  | '.' :: rest => some (.any, rest)
  | '[' :: rest =>
    match Pattern.bracket? (rest.map (⟨·, false⟩)) with
    | some (negated, members, more) => some (.oneOf negated members, more.map (·.char))
    | none => some (.char '[', rest)
  | c :: rest => some (.char c, rest)

def read : (fuel : Nat) → (done : List Part) → List Char → List Part × Bool
  | 0, done, _ => (done, false)
  | _, done, ['$'] => (done, true)
  | fuel + 1, done, cs =>
    match atom cs with
    | none => (done, false)
    | some (a, '*' :: rest) => read fuel (done ++ [⟨a, true⟩]) rest
    | some (a, rest) => read fuel (done ++ [⟨a, false⟩]) rest

def ofString (s : String) : RegularExpression :=
  let (atStart, cs) := match s.toList with
    | '^' :: rest => (true, rest)
    | cs => (false, cs)
  let (units, atEnd) := read (cs.length + 1) [] cs
  ⟨atStart, units, atEnd⟩

/-- A text that stands for itself. -/
def ofText (s : String) : RegularExpression := ⟨false, s.toList.map (⟨.char ·, false⟩), false⟩

/-- Whether units fit the start of a text, or all of it; fuel is the length of both. -/
def fitsWithin (atEnd : Bool) : (fuel : Nat) → List Part → List Char → Bool
  | 0, _, _ => false
  | _, [], cs => !atEnd || cs.isEmpty
  | fuel + 1, u :: rest, cs =>
    (u.isRepeated && fitsWithin atEnd fuel rest cs) ||
      match cs with
      | [] => false
      | c :: more =>
        u.atom.fits c && fitsWithin atEnd fuel (if u.isRepeated then u :: rest else rest) more

/-- Whether an expression fits somewhere in a text. -/
def occursIn (e : RegularExpression) (cs : List Char) : Bool :=
  let here (cs : List Char) : Bool := fitsWithin e.atEnd (e.units.length + cs.length + 1) e.units cs
  if e.atStart then here cs else (List.range (cs.length + 1)).any fun n => here (cs.drop n)

end RegularExpression

end ArithCompiler.Process
