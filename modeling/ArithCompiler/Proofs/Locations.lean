import ArithCompiler.Proofs.Segmentation
import Mathlib.Data.List.Induction

/-!
# Places of lexemes

A reader is asked for one lexeme after the other, beyond the end of its text too
(`Reader.calls`). A lexeme starts where the characters before it, without their
white space, are the lexemes that came earlier, and its place is the one that
counting lines and columns up to there gives (`Location.ofOffset`), although the
reader counts as it goes and takes back what it puts back. At the end of the text
every further call gives the same lexeme.
-/

namespace ArithCompiler

/-- What the first `n` calls for the next lexeme give. -/
def Reader.calls (r : Reader) : Nat → List (Except ScanError Lexeme)
  | 0 => []
  | n + 1 => r.next.1 :: r.next.2.calls n

/-- The place at an offset of a text: one more than the number of newlines before
it, and one more than the number of characters after the last of them. -/
def Location.ofOffset (cs : List Char) (k : Nat) : Location :=
  ⟨1 + (cs.take k).count '\n', 1 + ((cs.take k).reverse.takeWhile (· ≠ '\n')).length⟩

/-- A lexeme that comes after the lexemes `before` has its first character at the
offset `k`; the end of input is at the end of the text. -/
structure Lexeme.StartsAt (l : Lexeme) (cs : List Char) (before : List Lexeme) (k : Nat) :
    Prop where
  bound : k ≤ cs.length
  before : Text.withoutBlanks (cs.take k) = before.flatMap (·.text.toList)
  first : ∀ c ∈ (cs.drop k).head?, Text.isBlank c = false
  text : l.text.toList <+: cs.drop k
  nonempty : l.kind ≠ .eof → l.text ≠ ""
  ended : l.kind = .eof ↔ k = cs.length

/-! ### Counting lines and columns -/

theorem Location.afterAll_append (p : Location) (cs ds : List Char) :
    p.afterAll (cs ++ ds) = (p.afterAll cs).afterAll ds :=
  List.foldl_append

theorem Location.afterAll_start (cs : List Char) :
    Location.start.afterAll cs =
      ⟨1 + cs.count '\n', 1 + (cs.reverse.takeWhile (· ≠ '\n')).length⟩ := by
  induction cs using List.reverseRecOn with
  | nil => rfl
  | append_singleton cs c ih =>
    rw [afterAll_append, ih, afterAll_cons, afterAll_nil, after]
    by_cases hc : c = '\n'
    · subst hc
      simp [Int.add_assoc]
    · simp [hc, Int.add_assoc]

theorem Location.ofOffset_append (cs ds : List Char) :
    Location.ofOffset (cs ++ ds) cs.length = Location.start.afterAll cs := by
  rw [ofOffset, List.take_left, afterAll_start]

/-! ### Offsets -/

theorem Lexeme.StartsAt.le {l : Lexeme} {cs : List Char} {before : List Lexeme} {j k : Nat}
    (hj : l.StartsAt cs before j) (hk : l.StartsAt cs before k) : k ≤ j := by
  apply Nat.le_of_not_lt
  intro hlt
  -- the character at `j` would be one more that is no white space
  have hlen : j < cs.length := Nat.lt_of_lt_of_le hlt hk.bound
  have hdrop := List.drop_eq_getElem_cons hlen
  have hblank := hj.first cs[j] (by rw [hdrop]; rfl)
  have htake : cs.take k = cs.take j ++ (cs.drop j).take (k - j) := by
    rw [← List.take_add, Nat.add_sub_cancel' (Nat.le_of_lt hlt)]
  obtain ⟨i, hi⟩ : ∃ i, k - j = i + 1 := ⟨k - j - 1, by omega⟩
  have hsame := hk.before.trans hj.before.symm
  rw [htake, hdrop, hi, List.take_succ_cons, Text.withoutBlanks_append,
    Text.withoutBlanks_cons hblank] at hsame
  simp at hsame

theorem Lexeme.startsAt_iff {l : Lexeme} {cs : List Char} {before : List Lexeme} {j k : Nat}
    (hk : l.StartsAt cs before k) : l.StartsAt cs before j ↔ j = k := by
  constructor
  · intro hj
    exact Nat.le_antisymm (hk.le hj) (hj.le hk)
  · rintro rfl
    exact hk

/-! ### One call -/

theorem isBlank_of_mem_munch {c d : Char} {cs : List Char} (hc : Text.isBlank c = false)
    (hd : d ∈ (munch c cs).2) : Text.isBlank d = false := by
  unfold munch at hd
  by_cases hdigit : isDigit c = true
  · simp only [hdigit, ite_true] at hd
    exact not_isBlank_of_isDigit ((isRun_span hdigit cs).members d hd)
  · by_cases hletter : isLetter c = true
    · simp only [hdigit, hletter, Bool.false_eq_true, ite_false, ite_true] at hd
      exact not_isBlank_of_isLetter ((isRun_span hletter cs).members d hd)
    · have hsingle : d = c := by
        simp only [hdigit, hletter, Bool.false_eq_true, ite_false] at hd
        split at hd
        · exact List.mem_singleton.mp hd
        · split at hd <;> exact List.mem_singleton.mp hd
      rw [hsingle]
      exact hc

namespace Reader

/-- What a call gives to a reader at the place `p` in front of the characters `cs`:
after some white space, the lexeme, and then the characters `rest`. -/
structure Delivers (r : Reader) (p : Location) (cs : List Char) (l : Lexeme)
    (blanks rest : List Char) : Prop where
  result : r.next.1 = .ok l
  split : cs = blanks ++ (l.text.toList ++ rest)
  blank : ∀ c ∈ blanks, Text.isBlank c = true
  visible : ∀ c ∈ l.text.toList, Text.isBlank c = false
  first : ∀ c ∈ (l.text.toList ++ rest).head?, Text.isBlank c = false
  place : l.loc = p.afterAll blanks
  nonempty : l.kind ≠ .eof → l.text ≠ ""
  ended : l.kind = .eof ↔ l.text.toList ++ rest = []
  after : r.next.2.Stands (l.loc.afterAll l.text.toList) rest .clean

theorem exists_delivers {r : Reader} {p : Location} {cs : List Char} (h : r.Stands p cs .clean) :
    ∃ l blanks rest, r.Delivers p cs l blanks rest := by
  have hblanks : ∀ c ∈ cs.takeWhile Text.isBlank, Text.isBlank c = true :=
    List.all_eq_true.mp List.all_takeWhile
  have hsplit : cs = cs.takeWhile Text.isBlank ++ cs.dropWhile Text.isBlank :=
    List.takeWhile_append_dropWhile.symm
  cases hcs : cs.dropWhile Text.isBlank with
  | nil =>
    obtain ⟨r', hnext, h'⟩ := next_of_stands_blank h hcs
    rw [hcs] at hsplit
    exact ⟨⟨.eof, "", p.afterAll (cs.takeWhile Text.isBlank)⟩, cs.takeWhile Text.isBlank, [],
      { result := by rw [hnext]
        split := hsplit
        blank := hblanks
        visible := by simp
        first := by simp
        place := rfl
        nonempty := by simp
        ended := by simp
        after := by rw [hnext]; exact h' }⟩
  | cons c ds =>
    obtain ⟨r', hnext, h'⟩ := next_of_stands h hcs
    have hc := isBlank_of_dropWhile hcs
    have htext : (String.ofList (munch c ds).2).toList = (munch c ds).2 := String.toList_ofList
    rw [hcs, ← munch_append_munchRest c ds] at hsplit
    exact ⟨⟨(munch c ds).1, String.ofList (munch c ds).2,
        p.afterAll (cs.takeWhile Text.isBlank)⟩, cs.takeWhile Text.isBlank, munchRest c ds,
      { result := by rw [hnext]
        split := by rw [htext]; exact hsplit
        blank := hblanks
        visible := by
          intro d hd
          rw [htext] at hd
          exact isBlank_of_mem_munch hc hd
        first := by
          rw [htext, munch_append_munchRest]
          simpa using hc
        place := rfl
        nonempty := by simp [munch_ne_nil]
        ended := by simp [munch_kind_ne_eof, munch_ne_nil]
        after := by rw [hnext, htext]; exact h' }⟩

section

variable {r : Reader} {p : Location} {l : Lexeme} {before : List Lexeme}
  {done cs blanks rest : List Char}

theorem Delivers.withoutBlanks_skipped (h : r.Delivers p cs l blanks rest)
    (hdone : Text.withoutBlanks done = before.flatMap (·.text.toList)) :
    Text.withoutBlanks (done ++ blanks) = before.flatMap (·.text.toList) := by
  rw [Text.withoutBlanks_append, Text.withoutBlanks_of_blank h.blank, List.append_nil, hdone]

theorem Delivers.withoutBlanks_done (h : r.Delivers p cs l blanks rest)
    (hdone : Text.withoutBlanks done = before.flatMap (·.text.toList)) :
    Text.withoutBlanks (done ++ blanks ++ l.text.toList) =
      (before ++ [l]).flatMap (·.text.toList) := by
  rw [Text.withoutBlanks_append, h.withoutBlanks_skipped hdone,
    Text.withoutBlanks_of_visible h.visible, List.flatMap_append, List.flatMap_singleton]

/-- A lexeme starts behind the white space before it. -/
theorem Delivers.startsAt (h : r.Delivers p cs l blanks rest)
    (hdone : Text.withoutBlanks done = before.flatMap (·.text.toList)) :
    l.StartsAt (done ++ cs) before (done ++ blanks).length := by
  have hcs : done ++ cs = done ++ blanks ++ (l.text.toList ++ rest) := by
    rw [h.split, List.append_assoc]
  rw [hcs]
  exact
    { bound := by simp
      before := by rw [List.take_left, h.withoutBlanks_skipped hdone]
      first := by rw [List.drop_left]; exact h.first
      text := by rw [List.drop_left]; exact List.prefix_append ..
      nonempty := h.nonempty
      ended := by
        rw [h.ended, ← List.length_eq_zero_iff]
        simp only [List.length_append]
        omega }

theorem Delivers.loc_eq (h : r.Delivers (Location.start.afterAll done) cs l blanks rest) :
    l.loc = Location.ofOffset (done ++ cs) (done ++ blanks).length := by
  rw [h.split, ← List.append_assoc, Location.ofOffset_append, Location.afterAll_append, h.place]

end

/-! ### All calls -/

theorem calls_of_stands_nil {r : Reader} {p : Location} (h : r.Stands p [] .clean) (n : Nat) :
    r.calls n = List.replicate n (.ok ⟨.eof, "", p⟩) := by
  induction n generalizing r with
  | zero => rfl
  | succ n ih =>
    obtain ⟨r', hnext, h'⟩ := next_of_stands_blank h rfl
    rw [calls, hnext, List.replicate_succ, ih h']
    rfl

theorem Delivers.calls_of_eof {r : Reader} {p : Location} {l : Lexeme}
    {cs blanks rest : List Char} (h : r.Delivers p cs l blanks rest) (heof : l.kind = .eof)
    (n : Nat) : r.next.2.calls n = List.replicate n (.ok l) := by
  obtain ⟨htext, rfl⟩ := List.append_eq_nil_iff.mp (h.ended.mp heof)
  have hl : l = ⟨.eof, "", l.loc⟩ := by
    rw [← heof, ← String.toList_eq_nil_iff.mp htext]
  have hafter := h.after
  rw [htext, Location.afterAll_nil] at hafter
  rw [calls_of_stands_nil hafter, ← hl]

/-- A reader that has delivered the lexemes `before` of a text, and the characters
`done`, delivers the rest of the lexemes at their places. -/
theorem calls_of_stands {r : Reader} {cs : List Char} (done : List Char) (before : List Lexeme)
    (n : Nat) (h : r.Stands (Location.start.afterAll done) cs .clean)
    (hdone : Text.withoutBlanks done = before.flatMap (·.text.toList)) :
    ∃ ls, r.calls n = ls.map .ok ∧
      ∀ early l later, ls = early ++ l :: later →
        (∃ k, l.StartsAt (done ++ cs) (before ++ early) k ∧
          l.loc = Location.ofOffset (done ++ cs) k) ∧
        (l.kind = .eof → ∀ m ∈ later, m = l) := by
  induction n generalizing r done cs before with
  | zero => exact ⟨[], rfl, by simp⟩
  | succ n ih =>
    obtain ⟨l, blanks, rest, hl⟩ := exists_delivers h
    have hcs : done ++ cs = done ++ blanks ++ l.text.toList ++ rest := by
      rw [hl.split, List.append_assoc, List.append_assoc]
    have hafter : r.next.2.Stands
        (Location.start.afterAll (done ++ blanks ++ l.text.toList)) rest .clean := by
      rw [Location.afterAll_append, Location.afterAll_append, ← hl.place]
      exact hl.after
    obtain ⟨ls, hcalls, hls⟩ := ih _ _ hafter (hl.withoutBlanks_done hdone)
    refine ⟨l :: ls, by rw [calls, hl.result, hcalls, List.map_cons], ?_⟩
    intro early m later hsplit
    cases early with
    | nil =>
      obtain ⟨rfl, rfl⟩ := List.cons.inj hsplit
      rw [List.append_nil]
      refine ⟨⟨_, hl.startsAt hdone, hl.loc_eq⟩, ?_⟩
      intro heof m hm
      have hmem : Except.ok m ∈ r.next.2.calls n := hcalls ▸ List.mem_map_of_mem hm
      rw [hl.calls_of_eof heof] at hmem
      exact Except.ok.inj (List.eq_of_mem_replicate hmem)
    | cons l' early =>
      obtain ⟨rfl, rfl⟩ := List.cons.inj hsplit
      have hm := hls early m later rfl
      rwa [← hcs, List.append_assoc, List.singleton_append] at hm

end Reader

/-- Every lexeme that a reader delivers has the place of its first character, and the
end of input is followed by nothing but itself. -/
theorem calls_located (cs : List Char) (n : Nat) :
    ∃ ls, (Reader.ofChars cs .clean).calls n = ls.map .ok ∧
      ∀ before l later, ls = before ++ l :: later →
        (∃ k, (∀ j, l.StartsAt cs before j ↔ j = k) ∧ l.loc = Location.ofOffset cs k) ∧
        (l.kind = .eof → ∀ m ∈ later, m = l) := by
  obtain ⟨ls, hcalls, hls⟩ :=
    Reader.calls_of_stands [] [] n (Reader.stands_ofChars cs .clean) rfl
  refine ⟨ls, hcalls, ?_⟩
  intro before l later hsplit
  obtain ⟨⟨k, hk, hloc⟩, hended⟩ := hls before l later hsplit
  exact ⟨⟨k, fun j => Lexeme.startsAt_iff hk, hloc⟩, hended⟩

end ArithCompiler
