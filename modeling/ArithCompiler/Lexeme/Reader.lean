import ArithCompiler.Location

/-!
# A reader with one character of push-back

A reader delivers the characters of a text one at a time and keeps the place of
the next one. The character just read can be put back, once; the place then goes
back with it. After the last character every read reports how the text ends. It is
the reader of the tokenizer in `SPEC_FULL.md` §10.
-/

namespace ArithCompiler

/-- What follows the last character of a text. -/
inductive Ending where
  | clean
  | broken (reason : String)
deriving DecidableEq, Repr

/-- Why no character could be read. -/
inductive Stop where
  | finished
  | failed (reason : String)
deriving DecidableEq, Repr

/-- The stop that an ending causes. -/
def Ending.stop : Ending → Stop
  | .clean => .finished
  | .broken reason => .failed reason

structure Reader where
  /-- The character put back, if there is one. -/
  pushed : Option Char
  /-- The characters not delivered yet. -/
  pending : List Char
  ending : Ending
  /-- The place of the next character. -/
  place : Location
  /-- The column of the character delivered last. -/
  lastColumn : Int
deriving DecidableEq, Repr

namespace Reader

/-- A reader at the start of a text. -/
def ofChars (cs : List Char) (ending : Ending) : Reader :=
  ⟨none, cs, ending, .start, 1⟩

/-- The number of characters still to be read, a character put back included. -/
def remaining (r : Reader) : Nat := r.pending.length + r.pushed.toList.length

/-! ### Reading and putting back -/

/-- The next character. One that was put back comes first, and its column is
already known. -/
def read (r : Reader) : Except Stop (Char × Reader) :=
  match r.pushed with
  | some c => .ok (c, { r with pushed := none, place := r.place.after c })
  | none =>
    match r.pending with
    | c :: rest =>
      .ok (c, { r with pending := rest, place := r.place.after c, lastColumn := r.place.column })
    | [] => .error r.ending.stop

/-- Puts back the character `c` just read; `none` when one is put back already. -/
def unread (r : Reader) (c : Char) : Option Reader :=
  match r.pushed with
  | some _ => none
  | none =>
    let line := if c = '\n' then r.place.line - 1 else r.place.line
    some { r with pushed := some c, place := ⟨line, r.lastColumn⟩ }

/-! ### Progress -/

theorem pushed_of_read {r r' : Reader} {c : Char} (h : r.read = .ok (c, r')) :
    r'.pushed = none := by
  unfold read at h
  split at h
  · cases h; rfl
  · next hp =>
    split at h
    · cases h; exact hp
    · cases h

theorem remaining_of_read {r r' : Reader} {c : Char} (h : r.read = .ok (c, r')) :
    r'.remaining + 1 = r.remaining := by
  unfold read at h
  split at h
  · next hp => cases h; simp [remaining, hp]
  · next hp =>
    split at h
    · next hq => cases h; simp [remaining, hp, hq]
    · cases h

theorem remaining_of_unread {r r' : Reader} {c : Char} (h : r.unread c = some r') :
    r'.remaining = r.remaining + 1 := by
  unfold unread at h
  split at h
  · cases h
  · next hp => cases h; simp [remaining, hp]

/-- A character put back is the next one read. -/
theorem read_of_unread {r r' : Reader} {c : Char} (h : r.unread c = some r') :
    ∃ r'', r'.read = .ok (c, r'') := by
  unfold unread at h
  split at h
  · cases h
  · cases h; exact ⟨_, rfl⟩

end Reader

end ArithCompiler
