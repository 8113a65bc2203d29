import ArithCompiler.Lexeme
import ArithCompiler.Lexeme.Reader
import ArithCompiler.Text.Blank
import ArithCompiler.Text.Utf8

/-!
# Lexemes from a reader

`Reader.next` skips white space and reads one lexeme: a maximal run of digits, a
maximal run of letters, a parenthesis, or a single other character. It looks at
a character before it decides, and puts it back if it belongs to a run. A text
that breaks off inside a run loses that run.

`tokenize` reads a whole source text. It ends because every lexeme but the end of
input takes at least one character (`remaining_of_next`).
-/

namespace ArithCompiler

/-- Why no lexeme could be read. -/
inductive ScanError where
  | readFailed (reason : String)
  | pushBackFull
deriving DecidableEq, Repr

namespace ScanError

def message : ScanError → String
  | .readFailed reason => reason
  | .pushBackFull => "a character is put back already"

end ScanError

/-- Digits of numbers are ASCII (`SPEC_FULL.md` §17): they are copied into the code as
they are. -/
def isDigit (c : Char) : Bool := '0' ≤ c && c ≤ '9'

/-- Letters of names are ASCII (`SPEC_FULL.md` §17): they are copied into the code as
they are. -/
def isLetter (c : Char) : Bool := ('a' ≤ c && c ≤ 'z') || ('A' ≤ c && c ≤ 'Z')

/-- The words that are not names. -/
def keywords : List String := ["return", "if"]

namespace Reader

/-! ### Parts of a lexeme -/

/-- Skips white space. Ends before the first other character, or at the end. -/
def skipBlanks (r : Reader) : Option ScanError × Reader :=
  match _h : r.read with
  | .error .finished => (none, r)
  | .error (.failed reason) => (some (.readFailed reason), r)
  | .ok (c, r') =>
    if Text.isBlank c then skipBlanks r'
    else
      match r'.unread c with
      | some r'' => (none, r'')
      | none => (some .pushBackFull, r')
termination_by r.remaining
decreasing_by have := remaining_of_read _h; omega

/-- Reads a maximal run of characters of a class. -/
def takeRun (cls : Char → Bool) (r : Reader) : Except ScanError (List Char) × Reader :=
  match _h : r.read with
  | .error .finished => (.ok [], r)
  | .error (.failed reason) => (.error (.readFailed reason), r)
  | .ok (c, r') =>
    if cls c then
      match takeRun cls r' with
      | (.ok cs, r'') => (.ok (c :: cs), r'')
      | (.error e, r'') => (.error e, r'')
    else
      match r'.unread c with
      | some r'' => (.ok [], r'')
      | none => (.error .pushBackFull, r')
termination_by r.remaining
decreasing_by have := remaining_of_read _h; omega

/-- Puts the first character `c` of a run back and reads the run as a lexeme. -/
def runLexeme (cls : Char → Bool) (kindOf : String → LexemeKind) (loc : Location) (c : Char)
    (r : Reader) : Except ScanError Lexeme × Reader :=
  match r.unread c with
  | none => (.error .pushBackFull, r)
  | some r' =>
    match takeRun cls r' with
    | (.ok cs, r'') => (.ok ⟨kindOf (String.ofList cs), String.ofList cs, loc⟩, r'')
    | (.error e, r'') => (.error e, r'')

/-- Letters make a keyword or a name. -/
def wordKind (word : String) : LexemeKind := if word ∈ keywords then .keyword else .ident

/-- The next lexeme (`SPEC_FULL.md` §2, step 1). At a clean end this is the end of input at
its place. -/
def next (r : Reader) : Except ScanError Lexeme × Reader :=
  match skipBlanks r with
  | (some e, r) => (.error e, r)
  | (none, r) =>
    match r.read with
    | .error .finished => (.ok ⟨.eof, "", r.place⟩, r)
    | .error (.failed reason) => (.error (.readFailed reason), r)
    | .ok (c, r') =>
      if isDigit c then runLexeme isDigit (fun _ => .number) r.place c r'
      else if isLetter c then runLexeme isLetter wordKind r.place c r'
      else if c = '(' then (.ok ⟨.lparen, "(", r.place⟩, r')
      else if c = ')' then (.ok ⟨.rparen, ")", r.place⟩, r')
      else (.ok ⟨.operator, String.singleton c, r.place⟩, r')

/-- The next lexeme as it is handed out: an error comes with the end of input, at no place. -/
def reply (r : Reader) : (Lexeme × Option ScanError) × Reader :=
  match r.next with
  | (.ok l, r') => ((l, none), r')
  | (.error e, r') => ((.endOfInput, some e), r')

/-! ### Progress -/

theorem remaining_skipBlanks_le (r : Reader) : (skipBlanks r).2.remaining ≤ r.remaining := by
  fun_induction skipBlanks r with
  | case1 => exact Nat.le_refl _
  | case2 => exact Nat.le_refl _
  | case3 r c r' h _ ih =>
    have := remaining_of_read h
    omega
  | case4 r c r' h _ r'' h' =>
    have := remaining_of_read h
    have := remaining_of_unread h'
    dsimp only
    omega
  | case5 r c r' h _ _ =>
    have := remaining_of_read h
    dsimp only
    omega

theorem remaining_takeRun_le (cls : Char → Bool) (r : Reader) :
    (takeRun cls r).2.remaining ≤ r.remaining := by
  fun_induction takeRun cls r with
  | case1 => exact Nat.le_refl _
  | case2 => exact Nat.le_refl _
  | case3 r c r' h _ cs r'' h' ih =>
    have := remaining_of_read h
    rw [h'] at ih
    dsimp only at ih ⊢
    omega
  | case4 r c r' h _ e r'' h' ih =>
    have := remaining_of_read h
    rw [h'] at ih
    dsimp only at ih ⊢
    omega
  | case5 r c r' h _ r'' h' =>
    have := remaining_of_read h
    have := remaining_of_unread h'
    dsimp only
    omega
  | case6 r c r' h _ _ =>
    have := remaining_of_read h
    dsimp only
    omega

/-- A run that starts with a character of its class takes that character. -/
theorem remaining_takeRun_lt {cls : Char → Bool} {r r' : Reader} {c : Char}
    (h : r.read = .ok (c, r')) (hc : cls c = true) :
    (takeRun cls r).2.remaining < r.remaining := by
  have hle := remaining_takeRun_le cls r'
  have hr := remaining_of_read h
  rw [takeRun]
  split
  · next h' => rw [h] at h'; cases h'
  · next h' => rw [h] at h'; cases h'
  · next c' r'' h' =>
    rw [h] at h'
    cases h'
    rw [if_pos hc]
    split <;> (next heq => rw [heq] at hle; dsimp only at hle ⊢; omega)

theorem remaining_runLexeme_le {cls : Char → Bool} (kindOf : String → LexemeKind)
    (loc : Location) {c : Char} (r : Reader) (hc : cls c = true) :
    (runLexeme cls kindOf loc c r).2.remaining ≤ r.remaining := by
  unfold runLexeme
  split
  · exact Nat.le_refl _
  · next r' h =>
    obtain ⟨r'', hr⟩ := read_of_unread h
    have hlt := remaining_takeRun_lt hr hc
    have hu := remaining_of_unread h
    split <;> (next heq => rw [heq] at hlt; dsimp only at hlt ⊢; omega)

/-- Every lexeme but the end of input takes at least one character. -/
theorem remaining_of_next {r r' : Reader} {l : Lexeme} (h : next r = (.ok l, r'))
    (hl : l.kind ≠ .eof) : r'.remaining < r.remaining := by
  have hskip := remaining_skipBlanks_le r
  unfold next at h
  split at h
  · cases h
  · next r₀ hs =>
    rw [hs] at hskip
    dsimp only at hskip
    split at h
    · cases h; exact absurd rfl hl
    · cases h
    · next c r₁ hr =>
      have hrem := remaining_of_read hr
      split at h
      · next hc =>
        have := remaining_runLexeme_le (fun _ => .number) r₀.place r₁ hc
        rw [h] at this
        dsimp only at this
        omega
      · split at h
        · next hc =>
          have := remaining_runLexeme_le wordKind r₀.place r₁ hc
          rw [h] at this
          dsimp only at this
          omega
        · split at h
          · cases h; omega
          · split at h <;> (cases h; omega)

/-! ### Whole texts -/

/-- The lexemes up to the end of input, which is left out. -/
def lexemes (r : Reader) : Except ScanError (List Lexeme) :=
  match _h : next r with
  | (.error e, _) => .error e
  | (.ok l, r') =>
    if _hl : l.kind = .eof then .ok []
    else (lexemes r').map (l :: ·)
termination_by r.remaining
decreasing_by exact remaining_of_next _h _hl

end Reader

/-- The lexemes of a source text, without the white space around it (`SPEC_FULL.md` §6,
Input). -/
def tokenize (source : List UInt8) : Except ScanError (List Lexeme) :=
  (Reader.ofChars (Text.trim (Text.decode source)) .clean).lexemes

end ArithCompiler
