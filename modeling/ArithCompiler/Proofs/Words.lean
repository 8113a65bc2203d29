import ArithCompiler.Proofs.Decoding
import ArithCompiler.Proofs.Scanning
import ArithCompiler.Tree.Operator

/-!
# Words

Lexemes without their places. The words of a text do not depend on where it
starts, white space has none, and the words of two texts that are put together are
those of the one and then those of the other, unless a number or a name runs on
across the boundary (`words_append`).
-/

namespace ArithCompiler

/-- A lexeme without its place. -/
abbrev Word := LexemeKind × String

def Lexeme.word (l : Lexeme) : Word := (l.kind, l.text)

def words (cs : List Char) : List Word := (scanned .start cs).map Lexeme.word

theorem map_word_scanned (p q : Location) (cs : List Char) :
    (scanned p cs).map Lexeme.word = (scanned q cs).map Lexeme.word := by
  fun_induction scanned p cs generalizing q with
  | case1 p => rw [scanned_nil]
  | case2 p c cs hc ih =>
    rw [scanned_cons_blank q cs hc]
    exact ih (q.after c)
  | case3 p c cs hc ih =>
    rw [scanned_cons q cs (by simpa using hc), List.map_cons, List.map_cons]
    rw [ih (q.afterAll (munch c cs).2)]
    rfl

@[simp] theorem words_nil : words [] = [] := by
  simp [words]

theorem words_cons_blank {c : Char} (cs : List Char) (hc : Text.isBlank c = true) :
    words (c :: cs) = words cs := by
  rw [words, scanned_cons_blank _ cs hc]
  exact map_word_scanned _ _ cs

theorem words_cons {c : Char} (cs : List Char) (hc : Text.isBlank c = false) :
    words (c :: cs) =
      ((munch c cs).1, String.ofList (munch c cs).2) :: words (munchRest c cs) := by
  rw [words, scanned_cons _ cs hc, List.map_cons]
  exact congrArg (_ :: ·) (map_word_scanned _ _ (munchRest c cs))

/-! ### Boundaries -/

/-- Whether two characters next to each other belong to one lexeme. -/
def runsOn (a b : Char) : Bool := (isDigit a && isDigit b) || (isLetter a && isLetter b)

/-- No lexeme runs on from one text into the other. -/
def Separate (cs ds : List Char) : Prop :=
  ∀ a ∈ cs.getLast?, ∀ b ∈ ds.head?, runsOn a b = false

theorem Separate.of_append {cs cs' ds : List Char} (h : Separate (cs ++ cs') ds) :
    Separate cs' ds := by
  intro a ha
  refine h a ?_
  rw [List.getLast?_append, Option.mem_def.mp ha]
  rfl

theorem Separate.tail {c : Char} {cs ds : List Char} (h : Separate (c :: cs) ds) :
    Separate cs ds := by
  rw [← List.singleton_append] at h
  exact h.of_append

theorem span_append_of_separate {cls : Char → Bool}
    (hcls : ∀ a b, cls a = true → cls b = true → runsOn a b = true) {c : Char}
    {cs ds : List Char} (hc : cls c = true) (h : Separate (c :: cs) ds) :
    (cs ++ ds).takeWhile cls = cs.takeWhile cls ∧
      (cs ++ ds).dropWhile cls = cs.dropWhile cls ++ ds := by
  induction cs generalizing c with
  | nil =>
    cases ds with
    | nil => exact ⟨rfl, rfl⟩
    | cons b ds =>
      have hcb : runsOn c b = false := h c rfl b rfl
      have hb : cls b = false := by
        by_cases hb : cls b = true
        · rw [hcls c b hc hb] at hcb
          cases hcb
        · simpa using hb
      simp [hb]
  | cons d cs ih =>
    by_cases hd : cls d = true
    · obtain ⟨htake, hdrop⟩ := ih hd h.tail
      simp only [List.cons_append, List.takeWhile_cons, List.dropWhile_cons, hd, ite_true, htake,
        hdrop, and_self]
    · simp [hd]

theorem munch_append {c : Char} {cs ds : List Char} (h : Separate (c :: cs) ds) :
    munch c (cs ++ ds) = munch c cs ∧ munchRest c (cs ++ ds) = munchRest c cs ++ ds := by
  unfold munch munchRest
  by_cases hd : isDigit c = true
  · obtain ⟨htake, hdrop⟩ := span_append_of_separate (by simp +contextual [runsOn]) hd h
    simp only [hd, ite_true, htake, hdrop, and_self]
  · by_cases hl : isLetter c = true
    · obtain ⟨htake, hdrop⟩ := span_append_of_separate (by simp +contextual [runsOn]) hl h
      simp only [hd, Bool.false_eq_true, ite_false, hl, ite_true, htake, hdrop, and_self]
    · simp only [hd, hl]
      exact ⟨rfl, rfl⟩

theorem words_append {cs ds : List Char} (h : Separate cs ds) :
    words (cs ++ ds) = words cs ++ words ds := by
  -- as scanning does, by lexemes: the rest after a lexeme has the same boundary
  induction hn : cs.length using Nat.strongRecOn generalizing cs with
  | ind n ih =>
    cases cs with
    | nil => simp
    | cons c cs =>
      rw [List.length_cons] at hn
      by_cases hb : Text.isBlank c = true
      · rw [List.cons_append, words_cons_blank _ hb, words_cons_blank _ hb]
        exact ih cs.length (by omega) h.tail rfl
      · have hb : Text.isBlank c = false := by simpa using hb
        obtain ⟨hmunch, hrest⟩ := munch_append h
        have hlt := length_munchRest_le c cs
        rw [← munch_append_munchRest c cs] at h
        rw [List.cons_append, words_cons _ hb, words_cons _ hb, hmunch, hrest,
          ih (munchRest c cs).length (by omega) h.of_append rfl, List.cons_append]

/-! ### Characters that are in no run -/

def isAlone (c : Char) : Bool := !isDigit c && !isLetter c

theorem runsOn_eq_false_of_left {a : Char} (h : isAlone a = true) (b : Char) :
    runsOn a b = false := by
  simp only [isAlone, Bool.and_eq_true, Bool.not_eq_true'] at h
  simp [runsOn, h]

theorem runsOn_eq_false_of_right (a : Char) {b : Char} (h : isAlone b = true) :
    runsOn a b = false := by
  simp only [isAlone, Bool.and_eq_true, Bool.not_eq_true'] at h
  simp [runsOn, h]

theorem separate_of_last {cs : List Char} (h : ∀ a ∈ cs.getLast?, isAlone a = true)
    (ds : List Char) : Separate cs ds :=
  fun a ha b _ => runsOn_eq_false_of_left (h a ha) b

theorem separate_of_head (cs : List Char) {ds : List Char}
    (h : ∀ b ∈ ds.head?, isAlone b = true) : Separate cs ds :=
  fun a _ b hb => runsOn_eq_false_of_right a (h b hb)

theorem toNat_of_isDigit {c : Char} (h : isDigit c = true) : 48 ≤ c.toNat ∧ c.toNat ≤ 57 := by
  simpa [isDigit, Char.le_def, UInt32.le_iff_toNat_le] using h

theorem toNat_of_isLetter {c : Char} (h : isLetter c = true) :
    97 ≤ c.toNat ∧ c.toNat ≤ 122 ∨ 65 ≤ c.toNat ∧ c.toNat ≤ 90 := by
  simpa [isLetter, Char.le_def, UInt32.le_iff_toNat_le] using h

theorem isAlone_of_isBlank {c : Char} (h : Text.isBlank c = true) : isAlone c = true := by
  simp only [Text.isBlank, Bool.or_eq_true, Bool.and_eq_true, decide_eq_true_eq,
    beq_iff_eq] at h
  have hdigit : isDigit c = false := by
    apply Bool.eq_false_iff.mpr
    intro hd
    have := toNat_of_isDigit hd
    omega
  have hletter : isLetter c = false := by
    apply Bool.eq_false_iff.mpr
    intro hl
    have := toNat_of_isLetter hl
    omega
  simp [isAlone, hdigit, hletter]

/-! ### White space -/

theorem words_blanks_append {bs : List Char} (h : ∀ b ∈ bs, Text.isBlank b = true)
    (cs : List Char) : words (bs ++ cs) = words cs := by
  induction bs with
  | nil => rfl
  | cons b bs ih =>
    rw [List.cons_append, words_cons_blank _ (h b (List.mem_cons_self ..))]
    exact ih fun d hd => h d (List.mem_cons_of_mem _ hd)

theorem words_append_blanks (cs : List Char) {bs : List Char}
    (h : ∀ b ∈ bs, Text.isBlank b = true) : words (cs ++ bs) = words cs := by
  have hsep : Separate cs bs :=
    separate_of_head cs fun b hb => isAlone_of_isBlank (h b (List.mem_of_mem_head? hb))
  have hbs := words_blanks_append h []
  rw [List.append_nil, words_nil] at hbs
  rw [words_append hsep, hbs, List.append_nil]

theorem exists_trim (cs : List Char) :
    ∃ bs es, (∀ b ∈ bs, Text.isBlank b = true) ∧ (∀ e ∈ es, Text.isBlank e = true) ∧
      cs = bs ++ (Text.trim cs ++ es) := by
  refine ⟨cs.takeWhile Text.isBlank,
    ((cs.dropWhile Text.isBlank).reverse.takeWhile Text.isBlank).reverse, ?_, ?_, ?_⟩
  · exact List.all_eq_true.mp List.all_takeWhile
  · intro e he
    exact List.all_eq_true.mp List.all_takeWhile e (List.mem_reverse.mp he)
  · rw [Text.trim, ← List.reverse_append, List.takeWhile_append_dropWhile, List.reverse_reverse,
      List.takeWhile_append_dropWhile]

theorem words_trim (cs : List Char) : words (Text.trim cs) = words cs := by
  obtain ⟨bs, es, hbs, hes, hcs⟩ := exists_trim cs
  conv => rhs; rw [hcs, words_blanks_append hbs, words_append_blanks _ hes]

theorem map_word_tokenize {source : List UInt8} {ls : List Lexeme}
    (h : tokenize source = .ok ls) : ls.map Lexeme.word = words (Text.decode source) := by
  rw [tokenize_eq] at h
  cases h
  exact words_trim (Text.decode source)

/-! ### Single words -/

theorem span_of_all {cls : Char → Bool} {cs : List Char} (h : cs.all cls = true) :
    cs.takeWhile cls = cs ∧ cs.dropWhile cls = [] := by
  have hall : ∀ c ∈ cs, cls c = true := List.all_eq_true.mp h
  constructor
  · rw [← List.append_nil cs, List.takeWhile_append_of_pos hall, List.takeWhile_nil]
  · rw [← List.append_nil cs, List.dropWhile_append_of_pos hall, List.dropWhile_nil]

theorem isBlank_of_not_isAlone {c : Char} (h : isAlone c = false) : Text.isBlank c = false := by
  apply Bool.eq_false_iff.mpr
  intro hb
  rw [isAlone_of_isBlank hb] at h
  cases h

theorem words_numeral {digits : String} (h : Text.isNumeral digits = true) :
    words digits.toList = [(.number, digits)] := by
  simp only [Text.isNumeral, Bool.and_eq_true] at h
  obtain ⟨hne, hall⟩ := h
  have htext := String.ofList_toList (s := digits)
  cases hcs : digits.toList with
  | nil => simp [hcs] at hne
  | cons c cs =>
    rw [hcs] at hall htext
    rw [List.all_cons, Bool.and_eq_true] at hall
    have hblank : Text.isBlank c = false := isBlank_of_not_isAlone (by simp [isAlone, hall.1])
    obtain ⟨htake, hdrop⟩ := span_of_all hall.2
    rw [words_cons cs hblank]
    simp only [munch, munchRest, hall.1, ite_true, htake, hdrop, htext, words_nil]

theorem isDigit_of_isLetter {c : Char} (h : isLetter c = true) : isDigit c = false := by
  have hletter := toNat_of_isLetter h
  apply Bool.eq_false_iff.mpr
  intro hd
  have hdigit := toNat_of_isDigit hd
  omega

theorem words_name {name : String} (h : isName name = true) :
    words name.toList = [(.ident, name)] := by
  simp only [isName, Bool.and_eq_true, Bool.not_eq_true'] at h
  obtain ⟨⟨hne, hall⟩, hkeyword⟩ := h
  have htext := String.ofList_toList (s := name)
  have hkind : Reader.wordKind name = .ident := by
    rw [Reader.wordKind, if_neg (by simpa using hkeyword)]
  cases hcs : name.toList with
  | nil => simp [hcs] at hne
  | cons c cs =>
    rw [hcs] at hall htext
    rw [List.all_cons, Bool.and_eq_true] at hall
    have hdigit := isDigit_of_isLetter hall.1
    have hblank : Text.isBlank c = false := isBlank_of_not_isAlone (by simp [isAlone, hall.1])
    obtain ⟨htake, hdrop⟩ := span_of_all hall.2
    rw [words_cons cs hblank]
    simp only [munch, munchRest, hdigit, hall.1, Bool.false_eq_true, ite_true, ite_false, htake,
      hdrop, htext, hkind, words_nil]

theorem words_symbol (op : Operator) : words op.symbol.toList = [(.operator, op.symbol)] := by
  cases op <;> decide +kernel

end ArithCompiler
