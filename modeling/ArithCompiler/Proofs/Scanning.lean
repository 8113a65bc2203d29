import ArithCompiler.Proofs.Numerals

/-!
# Scanning as a function of the text

A reader between two lexemes is told by three things: the place of the next
character, the characters still to come (one that was put back included), and the
ending (`Reader.Stands`). Seen that way, reading and putting back leave no trace,
and the lexemes of a text are a function of the place where it starts and of its
characters (`scanned`): white space is skipped, and every lexeme is as long as its
class allows (`munch`).
-/

namespace ArithCompiler

/-- The place after some characters. -/
def Location.afterAll (p : Location) (cs : List Char) : Location := cs.foldl Location.after p

@[simp] theorem Location.afterAll_nil (p : Location) : p.afterAll [] = p := rfl

@[simp] theorem Location.afterAll_cons (p : Location) (c : Char) (cs : List Char) :
    p.afterAll (c :: cs) = (p.after c).afterAll cs := rfl

/-! ### Lexemes of a list of characters -/

/-- The kind and the characters of the lexeme that starts with `c`, which is no
white space. -/
def munch (c : Char) (cs : List Char) : LexemeKind × List Char :=
  if isDigit c then (.number, c :: cs.takeWhile isDigit)
  else if isLetter c then
    (Reader.wordKind (String.ofList (c :: cs.takeWhile isLetter)), c :: cs.takeWhile isLetter)
  else if c = '(' then (.lparen, [c])
  else if c = ')' then (.rparen, [c])
  else (.operator, [c])

/-- The characters that follow the lexeme that starts with `c`. -/
def munchRest (c : Char) (cs : List Char) : List Char :=
  if isDigit c then cs.dropWhile isDigit
  else if isLetter c then cs.dropWhile isLetter
  else cs

theorem munch_append_munchRest (c : Char) (cs : List Char) :
    (munch c cs).2 ++ munchRest c cs = c :: cs := by
  unfold munch munchRest
  split
  · simp only [List.cons_append, List.takeWhile_append_dropWhile]
  · split
    · simp only [List.cons_append, List.takeWhile_append_dropWhile]
    · split
      · rfl
      · split <;> rfl

theorem munch_ne_nil (c : Char) (cs : List Char) : (munch c cs).2 ≠ [] := by
  unfold munch
  split
  · simp
  · split
    · simp
    · split
      · simp
      · split <;> simp

theorem length_munchRest_le (c : Char) (cs : List Char) : (munchRest c cs).length ≤ cs.length := by
  have hlen := congrArg List.length (munch_append_munchRest c cs)
  have hpos := List.length_pos_iff.mpr (munch_ne_nil c cs)
  simp only [List.length_append, List.length_cons] at hlen
  omega

/-- The lexemes of a text that starts at a place. -/
def scanned (p : Location) (cs : List Char) : List Lexeme :=
  match cs with
  | [] => []
  | c :: cs =>
    if Text.isBlank c then scanned (p.after c) cs
    else
      ⟨(munch c cs).1, String.ofList (munch c cs).2, p⟩ ::
        scanned (p.afterAll (munch c cs).2) (munchRest c cs)
termination_by cs.length
decreasing_by
  · simp
  · have := length_munchRest_le c cs
    simp only [List.length_cons]
    omega

@[simp] theorem scanned_nil (p : Location) : scanned p [] = [] := by
  rw [scanned.eq_def]

theorem scanned_cons_blank (p : Location) {c : Char} (cs : List Char)
    (hc : Text.isBlank c = true) : scanned p (c :: cs) = scanned (p.after c) cs := by
  rw [scanned.eq_def]
  exact if_pos hc

theorem scanned_cons (p : Location) {c : Char} (cs : List Char) (hc : Text.isBlank c = false) :
    scanned p (c :: cs) =
      ⟨(munch c cs).1, String.ofList (munch c cs).2, p⟩ ::
        scanned (p.afterAll (munch c cs).2) (munchRest c cs) := by
  rw [scanned.eq_def]
  exact if_neg (by simp [hc])

theorem scanned_dropWhile_isBlank (p : Location) (cs : List Char) :
    scanned (p.afterAll (cs.takeWhile Text.isBlank)) (cs.dropWhile Text.isBlank) =
      scanned p cs := by
  induction cs generalizing p with
  | nil => rfl
  | cons c cs ih =>
    by_cases hc : Text.isBlank c = true
    · simp only [List.takeWhile_cons, List.dropWhile_cons, hc, ite_true, Location.afterAll_cons]
      rw [ih, scanned_cons_blank p cs hc]
    · simp only [List.takeWhile_cons, List.dropWhile_cons, hc, Bool.false_eq_true, ite_false,
        Location.afterAll_nil]

theorem isBlank_of_dropWhile {cs ds : List Char} {c : Char}
    (h : cs.dropWhile Text.isBlank = c :: ds) : Text.isBlank c = false := by
  have hhead := List.head?_dropWhile_not Text.isBlank cs
  rwa [h] at hhead

theorem length_munchRest_lt {cs ds : List Char} {c : Char}
    (h : cs.dropWhile Text.isBlank = c :: ds) : (munchRest c ds).length < cs.length := by
  have hrest := length_munchRest_le c ds
  have hdrop := (List.dropWhile_suffix (l := cs) Text.isBlank).length_le
  rw [h, List.length_cons] at hdrop
  omega

/-! ### Readers by what they will deliver -/

namespace Reader

/-- The characters still to be delivered. -/
def rest (r : Reader) : List Char := r.pushed.toList ++ r.pending

/-- The reader is at a place in front of some characters and an ending. The column
of a character that was put back is kept, so that it can be put back again. -/
structure Stands (r : Reader) (p : Location) (cs : List Char) (e : Ending) : Prop where
  rest : r.rest = cs
  place : r.place = p
  ending : r.ending = e
  column : r.pushed.isSome = true → r.lastColumn = r.place.column

theorem stands_ofChars (cs : List Char) (e : Ending) : (ofChars cs e).Stands .start cs e where
  rest := rfl
  place := rfl
  ending := rfl
  column := by simp [ofChars]

theorem read_of_stands_nil {r : Reader} {p : Location} {e : Ending} (h : r.Stands p [] e) :
    r.read = .error e.stop := by
  have hr := h.rest
  simp only [rest, List.append_eq_nil_iff, Option.toList_eq_nil_iff] at hr
  simp only [read, hr.1, hr.2, h.ending]

theorem line_after_sub (p : Location) (c : Char) :
    (if c = '\n' then (p.after c).line - 1 else (p.after c).line) = p.line := by
  unfold Location.after
  split <;> simp

theorem read_of_stands_cons {r : Reader} {p : Location} {c : Char} {cs : List Char} {e : Ending}
    (h : r.Stands p (c :: cs) e) :
    ∃ r', r.read = .ok (c, r') ∧ r'.Stands (p.after c) cs e ∧
      ∃ r'', r'.unread c = some r'' ∧ r''.Stands p (c :: cs) e := by
  obtain ⟨hrest, rfl, rfl, hcol⟩ := h
  unfold rest at hrest
  -- a character that was put back comes before the pending ones
  cases hp : r.pushed with
  | some d =>
    simp only [hp, Option.toList_some, List.cons_append, List.nil_append, List.cons.injEq] at hrest
    obtain ⟨rfl, rfl⟩ := hrest
    have hlast := hcol (by rw [hp]; rfl)
    refine ⟨{ r with pushed := none, place := r.place.after d }, by simp [read, hp],
      ⟨rfl, rfl, rfl, by simp⟩, ?_⟩
    refine ⟨{ r with pushed := some d }, ?_, ⟨rfl, rfl, rfl, fun _ => hlast⟩⟩
    simp only [unread, line_after_sub, hlast]
  | none =>
    simp only [hp, Option.toList_none, List.nil_append] at hrest
    refine ⟨{ r with pending := cs, place := r.place.after c, lastColumn := r.place.column },
      by simp [read, hp, hrest], ⟨by simp [rest, hp], rfl, rfl, by simp [hp]⟩, ?_⟩
    refine ⟨{ r with pushed := some c, pending := cs, lastColumn := r.place.column }, ?_,
      ⟨rfl, rfl, rfl, fun _ => rfl⟩⟩
    simp only [unread, hp, line_after_sub]

end Reader

/-! ### Where a text breaks off -/

/-- The error of reading on up to the first character of `rest`: there is one only if none is
left and the text breaks off. -/
def Ending.fault (e : Ending) (rest : List Char) : Option ScanError :=
  match e, rest with
  | .broken reason, [] => some (.readFailed reason)
  | _, _ => none

@[simp] theorem Ending.fault_clean (rest : List Char) : Ending.clean.fault rest = none := by
  cases rest <;> rfl

@[simp] theorem Ending.fault_cons (e : Ending) (c : Char) (rest : List Char) :
    e.fault (c :: rest) = none := by
  cases e <;> rfl

/-- The error of reading the lexeme that starts with `c`. Only for a run the character after it
has to be seen. -/
def Ending.munchFault (e : Ending) (c : Char) (cs : List Char) : Option ScanError :=
  if isDigit c || isLetter c then e.fault (munchRest c cs) else none

@[simp] theorem Ending.munchFault_clean (c : Char) (cs : List Char) :
    Ending.clean.munchFault c cs = none := by
  simp [munchFault]

namespace Reader

theorem skipBlanks_of_stands {r : Reader} {p : Location} {cs : List Char} {e : Ending}
    (h : r.Stands p cs e) :
    ∃ r', r.skipBlanks = (e.fault (cs.dropWhile Text.isBlank), r') ∧
      r'.Stands (p.afterAll (cs.takeWhile Text.isBlank)) (cs.dropWhile Text.isBlank) e := by
  induction cs generalizing r p with
  | nil =>
    have hread := read_of_stands_nil h
    refine ⟨r, ?_, h⟩
    rw [skipBlanks]
    split
    · next hr => rw [hread] at hr; cases e <;> cases hr; rfl
    · next hr => rw [hread] at hr; cases e <;> cases hr; rfl
    · next hr => rw [hread] at hr; cases hr
  | cons c cs ih =>
    obtain ⟨r₁, hread, h₁, r₂, hunread, h₂⟩ := read_of_stands_cons h
    rw [skipBlanks]
    split
    · next hr => rw [hread] at hr; cases hr
    · next hr => rw [hread] at hr; cases hr
    · next hr =>
      rw [hread] at hr
      cases hr
      by_cases hc : Text.isBlank c = true
      · simp only [hc, ite_true, List.takeWhile_cons, List.dropWhile_cons, Location.afterAll_cons]
        exact ih h₁
      · simp only [hc, hunread, List.takeWhile_cons, List.dropWhile_cons, Bool.false_eq_true,
          ite_false, Ending.fault_cons, Location.afterAll_nil]
        exact ⟨r₂, rfl, h₂⟩

theorem takeRun_of_stands {r : Reader} {p : Location} {cs : List Char} {e : Ending}
    (cls : Char → Bool) (h : r.Stands p cs e) :
    ∃ r', r.takeRun cls = ((e.fault (cs.dropWhile cls)).elim (.ok (cs.takeWhile cls)) .error, r') ∧
      r'.Stands (p.afterAll (cs.takeWhile cls)) (cs.dropWhile cls) e := by
  induction cs generalizing r p with
  | nil =>
    have hread := read_of_stands_nil h
    refine ⟨r, ?_, h⟩
    rw [takeRun]
    split
    · next hr => rw [hread] at hr; cases e <;> cases hr; rfl
    · next hr => rw [hread] at hr; cases e <;> cases hr; rfl
    · next hr => rw [hread] at hr; cases hr
  | cons c cs ih =>
    obtain ⟨r₁, hread, h₁, r₂, hunread, h₂⟩ := read_of_stands_cons h
    rw [takeRun]
    split
    · next hr => rw [hread] at hr; cases hr
    · next hr => rw [hread] at hr; cases hr
    · next hr =>
      rw [hread] at hr
      cases hr
      by_cases hc : cls c = true
      · obtain ⟨r₃, htake, h₃⟩ := ih h₁
        simp only [hc, ite_true, htake, List.takeWhile_cons, List.dropWhile_cons,
          Location.afterAll_cons]
        refine ⟨r₃, ?_, h₃⟩
        cases e.fault (cs.dropWhile cls) <;> rfl
      · simp only [hc, hunread, List.takeWhile_cons, List.dropWhile_cons, Bool.false_eq_true,
          ite_false, Ending.fault_cons, Location.afterAll_nil]
        exact ⟨r₂, rfl, h₂⟩

theorem runLexeme_of_unread {r r' : Reader} {p : Location} {c : Char} {cs : List Char}
    {e : Ending} {cls : Char → Bool} (kindOf : String → LexemeKind) (loc : Location)
    (hc : cls c = true) (hunread : r.unread c = some r') (h : r'.Stands p (c :: cs) e) :
    ∃ r'', runLexeme cls kindOf loc c r =
        ((e.fault (cs.dropWhile cls)).elim (.ok ⟨kindOf (String.ofList (c :: cs.takeWhile cls)),
          String.ofList (c :: cs.takeWhile cls), loc⟩) .error, r'') ∧
      r''.Stands (p.afterAll (c :: cs.takeWhile cls)) (cs.dropWhile cls) e := by
  obtain ⟨r'', htake, h''⟩ := takeRun_of_stands cls h
  simp only [List.takeWhile_cons, List.dropWhile_cons, hc, ite_true] at htake h''
  refine ⟨r'', ?_, h''⟩
  simp only [runLexeme, hunread, htake]
  cases e.fault (cs.dropWhile cls) <;> rfl

/-! ### The next lexeme -/

theorem next_of_stands_blank {r : Reader} {p : Location} {cs : List Char}
    (h : r.Stands p cs .clean) (hcs : cs.dropWhile Text.isBlank = []) :
    ∃ r', r.next = (.ok ⟨.eof, "", p.afterAll (cs.takeWhile Text.isBlank)⟩, r') ∧
      r'.Stands (p.afterAll (cs.takeWhile Text.isBlank)) [] .clean := by
  obtain ⟨r', hskip, h'⟩ := skipBlanks_of_stands h
  rw [hcs] at h'
  have hread := read_of_stands_nil h'
  refine ⟨r', ?_, h'⟩
  simp only [next, hskip, Ending.fault_clean, hread, Ending.stop, h'.place]

theorem next_of_stands_cons {r : Reader} {p : Location} {cs ds : List Char} {c : Char}
    {e : Ending} (h : r.Stands p cs e) (hcs : cs.dropWhile Text.isBlank = c :: ds) :
    ∃ r', r.next = ((e.munchFault c ds).elim (.ok ⟨(munch c ds).1, String.ofList (munch c ds).2,
        p.afterAll (cs.takeWhile Text.isBlank)⟩) .error, r') ∧
      r'.Stands ((p.afterAll (cs.takeWhile Text.isBlank)).afterAll (munch c ds).2)
        (munchRest c ds) e := by
  obtain ⟨r₀, hskip, h₀⟩ := skipBlanks_of_stands h
  rw [hcs] at hskip h₀
  obtain ⟨r₁, hread, h₁, r₂, hunread, h₂⟩ := read_of_stands_cons h₀
  have hplace := h₀.place
  simp only [next, hskip, Ending.fault_cons, hread, hplace]
  unfold Ending.munchFault munch munchRest
  by_cases hd : isDigit c = true
  · simp only [hd, Bool.true_or, ite_true]
    exact runLexeme_of_unread (fun _ => .number) _ hd hunread h₂
  · simp only [hd, Bool.false_eq_true, Bool.false_or, ite_false]
    by_cases hl : isLetter c = true
    · simp only [hl, ite_true]
      exact runLexeme_of_unread wordKind _ hl hunread h₂
    · simp only [hl, Bool.false_eq_true, ite_false]
      by_cases ho : c = '('
      · subst ho
        exact ⟨r₁, rfl, h₁⟩
      · by_cases hc : c = ')'
        · subst hc
          exact ⟨r₁, rfl, h₁⟩
        · simp only [ho, hc, ite_false]
          exact ⟨r₁, rfl, h₁⟩

theorem next_of_stands {r : Reader} {p : Location} {cs ds : List Char} {c : Char}
    (h : r.Stands p cs .clean) (hcs : cs.dropWhile Text.isBlank = c :: ds) :
    ∃ r', r.next = (.ok ⟨(munch c ds).1, String.ofList (munch c ds).2,
        p.afterAll (cs.takeWhile Text.isBlank)⟩, r') ∧
      r'.Stands ((p.afterAll (cs.takeWhile Text.isBlank)).afterAll (munch c ds).2)
        (munchRest c ds) .clean := by
  simpa using next_of_stands_cons h hcs

/-! ### Whole texts -/

theorem munch_kind_ne_eof (c : Char) (cs : List Char) : (munch c cs).1 ≠ .eof := by
  unfold munch
  split
  · simp
  · split
    · simp only [wordKind]
      split <;> simp
    · split
      · simp
      · split <;> simp

theorem lexemes_of_stands {r : Reader} {p : Location} {cs : List Char}
    (h : r.Stands p cs .clean) : r.lexemes = .ok (scanned p cs) := by
  -- every lexeme takes at least one character
  induction hn : cs.length using Nat.strongRecOn generalizing r p cs with
  | ind n ih =>
    rw [lexemes]
    cases hcs : cs.dropWhile Text.isBlank with
    | nil =>
      obtain ⟨r', hnext, -⟩ := next_of_stands_blank h hcs
      rw [← scanned_dropWhile_isBlank p cs, hcs, scanned_nil]
      split
      · next hr => rw [hnext] at hr; cases hr
      · next hr => rw [hnext] at hr; cases hr; rfl
    | cons c ds =>
      obtain ⟨r', hnext, h'⟩ := next_of_stands h hcs
      have hblank := isBlank_of_dropWhile hcs
      have htail := ih _ (hn ▸ length_munchRest_lt hcs) h' rfl
      rw [← scanned_dropWhile_isBlank p cs, hcs, scanned_cons _ ds hblank]
      split
      · next hr => rw [hnext] at hr; cases hr
      · next hr =>
        rw [hnext] at hr
        cases hr
        simp only [munch_kind_ne_eof, dite_false, htail]
        rfl

end Reader

theorem tokenize_eq (source : List UInt8) :
    tokenize source = .ok (scanned .start (Text.trim (Text.decode source))) :=
  Reader.lexemes_of_stands (Reader.stands_ofChars _ _)

/-! ### Spelling -/

/-- A text of letters. -/
def isWord (s : String) : Bool := !s.toList.isEmpty && s.toList.all isLetter

/-- A text of letters that is no keyword. -/
def isName (s : String) : Bool :=
  !s.toList.isEmpty && s.toList.all isLetter && !(keywords.contains s)

theorem ne_empty_of_isName {s : String} (hs : isName s = true) : s ≠ "" := by
  rintro rfl
  exact absurd hs (by decide)

theorem isWord_of_isName {s : String} (hs : isName s = true) : isWord s = true := by
  simp only [isName, Bool.and_eq_true] at hs
  simp only [isWord, Bool.and_eq_true]
  exact hs.1

/-- The text of a lexeme is one that its kind can have. -/
def Lexeme.isSpelled (l : Lexeme) : Bool :=
  match l.kind with
  | .number => Text.isNumeral l.text
  | .ident => isName l.text
  | .keyword => keywords.contains l.text
  | .lparen => l.text == "("
  | .rparen => l.text == ")"
  | .operator => l.text.toList.length == 1
  | .eof | .other _ => false

theorem isSpelled_word {w : List Char} (hne : w ≠ []) (hw : w.all isLetter = true)
    (p : Location) :
    (⟨Reader.wordKind (String.ofList w), String.ofList w, p⟩ : Lexeme).isSpelled = true := by
  unfold Reader.wordKind
  by_cases hk : String.ofList w ∈ keywords
  · simp [hk, Lexeme.isSpelled]
  · simpa [hk, Lexeme.isSpelled, isName, hne] using hw

theorem isSpelled_munch (c : Char) (cs : List Char) (p : Location) :
    (⟨(munch c cs).1, String.ofList (munch c cs).2, p⟩ : Lexeme).isSpelled = true := by
  unfold munch
  by_cases hd : isDigit c = true
  · simp [hd, Lexeme.isSpelled, Text.isNumeral, List.all_takeWhile]
  · by_cases hl : isLetter c = true
    · simp only [hd, hl, Bool.false_eq_true, ite_false, ite_true]
      exact isSpelled_word (List.cons_ne_nil c _) (by simp [hl, List.all_takeWhile]) p
    · simp only [hd, hl, Bool.false_eq_true, ite_false]
      by_cases ho : c = '('
      · subst ho
        rfl
      · by_cases hc : c = ')'
        · subst hc
          rfl
        · simp [ho, hc, Lexeme.isSpelled]

theorem isSpelled_of_mem_scanned {p : Location} {cs : List Char} {l : Lexeme}
    (h : l ∈ scanned p cs) : l.isSpelled = true := by
  fun_induction scanned p cs with
  | case1 => cases h
  | case2 p c cs hc ih => exact ih h
  | case3 p c cs hc ih =>
    rcases List.mem_cons.mp h with rfl | h
    · exact isSpelled_munch c cs p
    · exact ih h

theorem isSpelled_of_mem_tokenize {source : List UInt8} {ls : List Lexeme} {l : Lexeme}
    (h : tokenize source = .ok ls) (hl : l ∈ ls) : l.isSpelled = true := by
  rw [tokenize_eq] at h
  cases h
  exact isSpelled_of_mem_scanned hl

end ArithCompiler
