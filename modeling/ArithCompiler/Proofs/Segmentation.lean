import ArithCompiler.Proofs.Words

/-!
# Segments of a text

How a text falls into words is said here by rules that read it from the left
(`Segmented`). White space belongs to no word, and a run of digits or of letters is
as long as it can be. The rules leave no choice, every text follows them, and the
words of a text are what they give (`segmented_iff`). So the words put together are
the text without its white space (`Segmented.flatMap_text`).
-/

namespace ArithCompiler

/-- Some characters of a class that the characters after them do not continue. -/
structure IsRun (cls : Char → Bool) (run rest : List Char) : Prop where
  nonempty : run ≠ []
  members : ∀ c ∈ run, cls c = true
  maximal : ∀ c ∈ rest.head?, cls c = false

/-- The words that a text falls into. -/
inductive Segmented : List Char → List Word → Prop
  | nil : Segmented [] []
  | blank {c : Char} {cs : List Char} {ws : List Word} (hc : Text.isBlank c = true)
      (h : Segmented cs ws) : Segmented (c :: cs) ws
  | number {run cs : List Char} {ws : List Word} (hrun : IsRun isDigit run cs)
      (h : Segmented cs ws) : Segmented (run ++ cs) ((.number, String.ofList run) :: ws)
  | word {run cs : List Char} {ws : List Word} (hrun : IsRun isLetter run cs)
      (h : Segmented cs ws) :
      Segmented (run ++ cs)
        ((if String.ofList run = "return" ∨ String.ofList run = "if" then .keyword else .ident,
          String.ofList run) :: ws)
  | lparen {cs : List Char} {ws : List Word} (h : Segmented cs ws) :
      Segmented ('(' :: cs) ((.lparen, "(") :: ws)
  | rparen {cs : List Char} {ws : List Word} (h : Segmented cs ws) :
      Segmented (')' :: cs) ((.rparen, ")") :: ws)
  | operator {c : Char} {cs : List Char} {ws : List Word} (hblank : Text.isBlank c = false)
      (halone : isAlone c = true) (hopen : c ≠ '(') (hclose : c ≠ ')') (h : Segmented cs ws) :
      Segmented (c :: cs) ((.operator, String.singleton c) :: ws)

/-! ### Runs -/

theorem isRun_span {cls : Char → Bool} {c : Char} (hc : cls c = true) (cs : List Char) :
    IsRun cls (c :: cs.takeWhile cls) (cs.dropWhile cls) where
  nonempty := List.cons_ne_nil c _
  members := by
    intro d hd
    rcases List.mem_cons.mp hd with rfl | hd
    · exact hc
    · exact List.all_eq_true.mp List.all_takeWhile d hd
  maximal := by
    intro d hd
    have hhead := List.head?_dropWhile_not cls cs
    rw [Option.mem_def.mp hd] at hhead
    exact hhead

theorem span_append {cls : Char → Bool} {run rest : List Char} (hrun : ∀ c ∈ run, cls c = true)
    (hrest : ∀ c ∈ rest.head?, cls c = false) :
    (run ++ rest).takeWhile cls = run ∧ (run ++ rest).dropWhile cls = rest := by
  rw [List.takeWhile_append_of_pos hrun, List.dropWhile_append_of_pos hrun]
  cases rest with
  | nil => simp
  | cons d rest =>
    have hd : cls d = false := hrest d rfl
    simp [hd]

theorem IsRun.span {cls : Char → Bool} {c : Char} {run rest : List Char}
    (h : IsRun cls (c :: run) rest) :
    (run ++ rest).takeWhile cls = run ∧ (run ++ rest).dropWhile cls = rest :=
  span_append (fun d hd => h.members d (List.mem_cons_of_mem c hd)) h.maximal

/-- A text shows where a run at its start ends. -/
theorem append_inj_of_run (cls : Char → Bool) {run run' rest rest' : List Char}
    (hrun : ∀ c ∈ run, cls c = true) (hrest : ∀ c ∈ rest.head?, cls c = false)
    (hrun' : ∀ c ∈ run', cls c = true) (hrest' : ∀ c ∈ rest'.head?, cls c = false)
    (h : run ++ rest = run' ++ rest') : run = run' ∧ rest = rest' := by
  have hleft := span_append hrun hrest
  have hright := span_append hrun' hrest'
  rw [h] at hleft
  exact ⟨hleft.1.symm.trans hright.1, hleft.2.symm.trans hright.2⟩

theorem not_isBlank_of_isDigit {c : Char} (h : isDigit c = true) : Text.isBlank c = false :=
  isBlank_of_not_isAlone (by simp [isAlone, h])

theorem not_isBlank_of_isLetter {c : Char} (h : isLetter c = true) : Text.isBlank c = false :=
  isBlank_of_not_isAlone (by simp [isAlone, h])

/-! ### The words follow the rules -/

theorem wordKind_eq (word : String) :
    Reader.wordKind word = if word = "return" ∨ word = "if" then .keyword else .ident := by
  simp [Reader.wordKind, keywords]

theorem segmented_munch {c : Char} {cs : List Char} {ws : List Word}
    (hc : Text.isBlank c = false) (h : Segmented (munchRest c cs) ws) :
    Segmented (c :: cs) (((munch c cs).1, String.ofList (munch c cs).2) :: ws) := by
  unfold munchRest at h
  unfold munch
  by_cases hd : isDigit c = true
  · simp only [hd, ite_true] at h ⊢
    have hrun := Segmented.number (isRun_span hd cs) h
    rwa [List.cons_append, List.takeWhile_append_dropWhile] at hrun
  · by_cases hl : isLetter c = true
    · simp only [hd, hl, Bool.false_eq_true, ite_false, ite_true, wordKind_eq] at h ⊢
      have hrun := Segmented.word (isRun_span hl cs) h
      rwa [List.cons_append, List.takeWhile_append_dropWhile] at hrun
    · simp only [hd, hl, Bool.false_eq_true, ite_false] at h ⊢
      by_cases hopen : c = '('
      · subst hopen
        exact .lparen h
      · by_cases hclose : c = ')'
        · subst hclose
          exact .rparen h
        · simp only [hopen, hclose, ite_false]
          exact .operator hc (by simp [isAlone, hd, hl]) hopen hclose h

theorem segmented_words (cs : List Char) : Segmented cs (words cs) := by
  induction hn : cs.length using Nat.strongRecOn generalizing cs with
  | ind n ih =>
    cases cs with
    | nil => exact words_nil ▸ .nil
    | cons c cs =>
      rw [List.length_cons] at hn
      by_cases hc : Text.isBlank c = true
      · rw [words_cons_blank cs hc]
        exact .blank hc (ih cs.length (by omega) cs rfl)
      · have hc : Text.isBlank c = false := by simpa using hc
        have hlt := length_munchRest_le c cs
        rw [words_cons cs hc]
        exact segmented_munch hc (ih (munchRest c cs).length (by omega) _ rfl)

/-! ### The rules leave no choice -/

theorem words_run {cls : Char → Bool} {run cs : List Char} (kindOf : List Char → LexemeKind)
    (hrun : IsRun cls run cs) (hblank : ∀ c, cls c = true → Text.isBlank c = false)
    (hmunch : ∀ c ds, cls c = true →
      munch c ds = (kindOf (c :: ds.takeWhile cls), c :: ds.takeWhile cls) ∧
        munchRest c ds = ds.dropWhile cls) :
    words (run ++ cs) = (kindOf run, String.ofList run) :: words cs := by
  cases run with
  | nil => exact absurd rfl hrun.nonempty
  | cons c run =>
    have hc := hrun.members c (List.mem_cons_self ..)
    obtain ⟨htake, hdrop⟩ := hrun.span
    obtain ⟨hfirst, hrest⟩ := hmunch c (run ++ cs) hc
    rw [List.cons_append, words_cons _ (hblank c hc), hfirst, hrest, htake, hdrop]

theorem words_number {run cs : List Char} (hrun : IsRun isDigit run cs) :
    words (run ++ cs) = (.number, String.ofList run) :: words cs :=
  words_run (fun _ => .number) hrun (fun _ => not_isBlank_of_isDigit)
    fun c ds hc => by simp [munch, munchRest, hc]

theorem words_letters {run cs : List Char} (hrun : IsRun isLetter run cs) :
    words (run ++ cs) =
      (if String.ofList run = "return" ∨ String.ofList run = "if" then .keyword else .ident,
        String.ofList run) :: words cs := by
  rw [← wordKind_eq]
  exact words_run (fun run => Reader.wordKind (String.ofList run)) hrun
    (fun _ => not_isBlank_of_isLetter)
    fun c ds hc => by simp [munch, munchRest, isDigit_of_isLetter hc, hc]

theorem words_operator {c : Char} (hblank : Text.isBlank c = false) (halone : isAlone c = true)
    (hopen : c ≠ '(') (hclose : c ≠ ')') (cs : List Char) :
    words (c :: cs) = (.operator, String.singleton c) :: words cs := by
  simp only [isAlone, Bool.and_eq_true, Bool.not_eq_true'] at halone
  rw [words_cons cs hblank]
  simp [munch, munchRest, halone, hopen, hclose]

theorem Segmented.eq_words {cs : List Char} {ws : List Word} (h : Segmented cs ws) :
    ws = words cs := by
  induction h with
  | nil => exact words_nil.symm
  | blank hc h ih => rw [words_cons_blank _ hc, ih]
  | number hrun h ih => rw [words_number hrun, ih]
  | word hrun h ih => rw [words_letters hrun, ih]
  | lparen h ih => rw [words_cons _ (by decide), ih]; rfl
  | rparen h ih => rw [words_cons _ (by decide), ih]; rfl
  | operator hblank halone hopen hclose h ih =>
    rw [words_operator hblank halone hopen hclose, ih]

theorem segmented_iff {cs : List Char} {ws : List Word} : Segmented cs ws ↔ ws = words cs := by
  constructor
  · exact Segmented.eq_words
  · rintro rfl
    exact segmented_words cs

/-! ### No character is lost -/

/-- A text without its white space. -/
def Text.withoutBlanks (cs : List Char) : List Char := cs.filter fun c => !isBlank c

theorem Text.withoutBlanks_append (cs ds : List Char) :
    withoutBlanks (cs ++ ds) = withoutBlanks cs ++ withoutBlanks ds :=
  List.filter_append ..

theorem Text.withoutBlanks_of_blank {cs : List Char} (h : ∀ c ∈ cs, isBlank c = true) :
    withoutBlanks cs = [] :=
  List.filter_eq_nil_iff.mpr fun c hc => by simp [h c hc]

theorem Text.withoutBlanks_of_visible {cs : List Char} (h : ∀ c ∈ cs, isBlank c = false) :
    withoutBlanks cs = cs :=
  List.filter_eq_self.mpr fun c hc => by simp [h c hc]

theorem Text.withoutBlanks_cons {c : Char} (h : isBlank c = false) (cs : List Char) :
    withoutBlanks (c :: cs) = c :: withoutBlanks cs :=
  List.filter_cons_of_pos (by simp [h])

theorem Segmented.flatMap_text {cs : List Char} {ws : List Word} (h : Segmented cs ws) :
    ws.flatMap (·.2.toList) = Text.withoutBlanks cs := by
  induction h with
  | nil => rfl
  | @blank c cs ws hc h ih =>
    have hc : Text.withoutBlanks [c] = [] := Text.withoutBlanks_of_blank (by simpa using hc)
    rw [← List.singleton_append, Text.withoutBlanks_append, hc, ih, List.nil_append]
  | @number run cs ws hrun h ih =>
    have hvisible := fun c hc => not_isBlank_of_isDigit (hrun.members c hc)
    rw [Text.withoutBlanks_append, Text.withoutBlanks_of_visible hvisible, List.flatMap_cons, ih,
      String.toList_ofList]
  | @word run cs ws hrun h ih =>
    have hvisible := fun c hc => not_isBlank_of_isLetter (hrun.members c hc)
    rw [Text.withoutBlanks_append, Text.withoutBlanks_of_visible hvisible, List.flatMap_cons, ih,
      String.toList_ofList]
  | lparen h ih => rw [Text.withoutBlanks_cons (by decide), List.flatMap_cons, ih]; rfl
  | rparen h ih => rw [Text.withoutBlanks_cons (by decide), List.flatMap_cons, ih]; rfl
  | operator hblank halone hopen hclose h ih =>
    rw [Text.withoutBlanks_cons hblank, List.flatMap_cons, ih, String.toList_singleton,
      List.singleton_append]

/-! ### Lexemes of a source text -/

/-- The lexemes of a source text are the words that its decoded and trimmed text
falls into, and no others; together they are the decoded text without its white
space. -/
theorem tokenize_segmented (source : List UInt8) :
    ∃ cs ls, (∀ ds, Text.Decodes source ds ↔ ds = cs) ∧ tokenize source = .ok ls ∧
      (∀ ws, Segmented (Text.trim cs) ws ↔ ws = ls.map Lexeme.word) ∧
      ls.flatMap (·.text.toList) = Text.withoutBlanks cs := by
  obtain ⟨ls, hls⟩ : ∃ ls, tokenize source = .ok ls := ⟨_, tokenize_eq source⟩
  have hwords := map_word_tokenize hls
  refine ⟨Text.decode source, ls, fun ds => Text.decodes_iff, hls, ?_, ?_⟩
  · intro ws
    rw [segmented_iff, words_trim, hwords]
  · rw [← (segmented_words (Text.decode source)).flatMap_text, ← hwords, List.flatMap_map]
    rfl

end ArithCompiler
