import ArithCompiler.Proofs.Locations

/-!
# Texts that break off

A text can break off with an error instead of ending. A number or a word is complete only when
the character after it has been seen, so one that reaches the end of such a text is lost. All
lexemes before it are handed out, at their places, and every call after them hands out the error
with the end of input (`replies_broken`).
-/

namespace ArithCompiler

/-- What the first `n` calls for the next lexeme hand out. -/
def Reader.replies (r : Reader) : Nat → List (Lexeme × Option ScanError)
  | 0 => []
  | n + 1 => r.reply.1 :: r.reply.2.replies n

/-- The lexeme is a number or a word at the very end of the text. -/
def Lexeme.isCutOff (l : Lexeme) (cs : List Char) : Bool :=
  (l.kind == .number || l.kind == .ident || l.kind == .keyword) && l.text.toList.isSuffixOf cs

/-- The lexemes of a text without the last one, if that one is cut off. -/
def uncut (cs : List Char) : List Lexeme → List Lexeme
  | [] => []
  | [l] => if l.isCutOff cs then [] else [l]
  | l :: l' :: ls => l :: uncut cs (l' :: ls)

theorem uncut_cons {ls : List Lexeme} (h : ls ≠ []) (cs : List Char) (l : Lexeme) :
    uncut cs (l :: ls) = l :: uncut cs ls := by
  cases ls with
  | nil => exact absurd rfl h
  | cons l' ls => rfl

/-! ### The end of a text is the end of its rests -/

theorem Lexeme.isCutOff_of_suffix {l : Lexeme} {cs rest : List Char} (hrest : rest <:+ cs)
    (hl : l.text.toList.length ≤ rest.length) : l.isCutOff cs = l.isCutOff rest := by
  have hiff : l.text.toList <:+ cs ↔ l.text.toList <:+ rest :=
    ⟨fun h => List.suffix_of_suffix_length_le h hrest hl, fun h => h.trans hrest⟩
  have hends : l.text.toList.isSuffixOf cs = l.text.toList.isSuffixOf rest := by
    rw [Bool.eq_iff_iff, List.isSuffixOf_iff_suffix, List.isSuffixOf_iff_suffix, hiff]
  simp only [isCutOff, hends]

theorem uncut_of_suffix {cs rest : List Char} (hrest : rest <:+ cs) {ls : List Lexeme}
    (hls : ∀ l ∈ ls, l.text.toList.length ≤ rest.length) : uncut cs ls = uncut rest ls := by
  fun_induction uncut cs ls with
  | case1 => rfl
  | case2 l hcut =>
    rw [Lexeme.isCutOff_of_suffix hrest (hls l (List.mem_singleton_self l))] at hcut
    simp only [uncut, hcut, ite_true]
  | case3 l hcut =>
    rw [Lexeme.isCutOff_of_suffix hrest (hls l (List.mem_singleton_self l))] at hcut
    simp only [uncut, hcut, Bool.false_eq_true, ite_false]
  | case4 l l' ls ih =>
    rw [uncut_cons (List.cons_ne_nil l' ls), ih fun k hk => hls k (List.mem_cons_of_mem l hk)]

theorem length_of_mem_scanned {p : Location} {cs : List Char} {l : Lexeme}
    (h : l ∈ scanned p cs) : l.text.toList.length ≤ cs.length := by
  fun_induction scanned p cs with
  | case1 => cases h
  | case2 p c cs hc ih => exact Nat.le_succ_of_le (ih h)
  | case3 p c cs hc ih =>
    have hlen := congrArg List.length (munch_append_munchRest c cs)
    rw [List.length_append] at hlen
    rcases List.mem_cons.mp h with rfl | h
    · rw [String.toList_ofList]
      omega
    · have hle := ih h
      omega

theorem isBlank_of_scanned_eq_nil {p : Location} {cs : List Char} (h : scanned p cs = []) :
    ∀ c ∈ cs, Text.isBlank c = true := by
  fun_induction scanned p cs with
  | case1 => simp
  | case2 p c cs hc ih => exact List.forall_mem_cons.mpr ⟨hc, ih h⟩
  | case3 p c cs hc ih => cases h

/-! ### A lexeme at the end -/

theorem munchRest_suffix (c : Char) (ds : List Char) : munchRest c ds <:+ c :: ds :=
  ⟨(munch c ds).2, munch_append_munchRest c ds⟩

theorem munchRest_eq_nil_of_suffix {c : Char} {ds : List Char} (hc : Text.isBlank c = false)
    (hblank : ∀ d ∈ munchRest c ds, Text.isBlank d = true) (h : (munch c ds).2 <:+ c :: ds) :
    munchRest c ds = [] := by
  by_contra hne
  -- the last character would be of the lexeme and of the white space
  have hlast : (munch c ds).2.getLast (munch_ne_nil c ds) = (munchRest c ds).getLast hne :=
    (h.getLast (munch_ne_nil c ds)).trans ((munchRest_suffix c ds).getLast hne).symm
  have hvisible := isBlank_of_mem_munch hc (List.getLast_mem (munch_ne_nil c ds))
  rw [hlast, hblank _ (List.getLast_mem hne)] at hvisible
  cases hvisible

theorem kind_munch_iff (c : Char) (ds : List Char) :
    ((munch c ds).1 = .number ∨ (munch c ds).1 = .ident ∨ (munch c ds).1 = .keyword) ↔
      isAlone c = false := by
  unfold munch
  by_cases hd : isDigit c = true
  · simp [isAlone, hd]
  · by_cases hl : isLetter c = true
    · simp only [hd, hl, Bool.false_eq_true, ite_false, ite_true, isAlone, Reader.wordKind]
      split <;> simp
    · simp only [hd, hl, isAlone, Bool.false_eq_true, ite_false]
      split
      · simp
      · split <;> simp

theorem isCutOff_munch_iff {c : Char} {ds : List Char} (hc : Text.isBlank c = false)
    (hblank : ∀ d ∈ munchRest c ds, Text.isBlank d = true) (p : Location) :
    (⟨(munch c ds).1, String.ofList (munch c ds).2, p⟩ : Lexeme).isCutOff (c :: ds) = true ↔
      isAlone c = false ∧ munchRest c ds = [] := by
  have hends : (munch c ds).2 <:+ c :: ds ↔ munchRest c ds = [] := by
    constructor
    · exact munchRest_eq_nil_of_suffix hc hblank
    · intro hrest
      have happend := munch_append_munchRest c ds
      rw [hrest, List.append_nil] at happend
      exact ⟨[], happend⟩
  simp only [Lexeme.isCutOff, Bool.and_eq_true, Bool.or_eq_true, beq_iff_eq, or_assoc,
    List.isSuffixOf_iff_suffix, String.toList_ofList, kind_munch_iff, hends]

theorem uncut_scanned_of_cut {c : Char} {ds : List Char} (hc : Text.isBlank c = false)
    (hrun : isAlone c = false) (hrest : munchRest c ds = []) (p : Location) :
    uncut (c :: ds) (scanned p (c :: ds)) = [] := by
  have hcut := (isCutOff_munch_iff hc (by simp [hrest]) p).mpr ⟨hrun, hrest⟩
  rw [scanned_cons p ds hc, hrest, scanned_nil, uncut, if_pos hcut]

theorem uncut_scanned_of_whole {c : Char} {ds : List Char} (hc : Text.isBlank c = false)
    (h : isAlone c = false → munchRest c ds ≠ []) (p : Location) :
    uncut (c :: ds) (scanned p (c :: ds)) =
      ⟨(munch c ds).1, String.ofList (munch c ds).2, p⟩ ::
        uncut (munchRest c ds) (scanned (p.afterAll (munch c ds).2) (munchRest c ds)) := by
  rw [scanned_cons p ds hc]
  cases hls : scanned (p.afterAll (munch c ds).2) (munchRest c ds) with
  | nil =>
    have hblank := isBlank_of_scanned_eq_nil hls
    have hwhole := mt (isCutOff_munch_iff hc hblank p).mp fun hcut => h hcut.1 hcut.2
    simp only [uncut, if_neg hwhole]
  | cons l ls =>
    have hlen : ∀ k ∈ l :: ls, k.text.toList.length ≤ (munchRest c ds).length :=
      fun k hk => length_of_mem_scanned (hls ▸ hk)
    rw [uncut_cons (List.cons_ne_nil l ls), uncut_of_suffix (munchRest_suffix c ds) hlen]

theorem uncut_scanned_dropWhile (p : Location) (cs : List Char) :
    uncut cs (scanned p cs) =
      uncut (cs.dropWhile Text.isBlank)
        (scanned (p.afterAll (cs.takeWhile Text.isBlank)) (cs.dropWhile Text.isBlank)) := by
  rw [← scanned_dropWhile_isBlank p cs]
  exact uncut_of_suffix (List.dropWhile_suffix _) fun l hl => length_of_mem_scanned hl

/-! ### One call -/

theorem munchFault_eq (e : Ending) (c : Char) (cs : List Char) :
    e.munchFault c cs = if isAlone c then none else e.fault (munchRest c cs) := by
  have halone : isAlone c = !(isDigit c || isLetter c) := (Bool.not_or ..).symm
  rw [Ending.munchFault, halone]
  cases isDigit c || isLetter c <;> rfl

namespace Reader

variable {r : Reader} {p : Location} {cs ds : List Char} {c : Char} {reason : String}

theorem reply_of_stands_blank (h : r.Stands p cs (.broken reason))
    (hcs : cs.dropWhile Text.isBlank = []) :
    ∃ r' q, r.reply = ((.endOfInput, some (.readFailed reason)), r') ∧
      r'.Stands q [] (.broken reason) := by
  obtain ⟨r', hskip, h'⟩ := skipBlanks_of_stands h
  rw [hcs] at hskip h'
  refine ⟨r', _, ?_, h'⟩
  simp only [reply, next, hskip, Ending.fault]

theorem reply_of_stands_cut (h : r.Stands p cs (.broken reason))
    (hcs : cs.dropWhile Text.isBlank = c :: ds) (hrun : isAlone c = false)
    (hrest : munchRest c ds = []) :
    ∃ r' q, r.reply = ((.endOfInput, some (.readFailed reason)), r') ∧
      r'.Stands q [] (.broken reason) := by
  obtain ⟨r', hnext, h'⟩ := next_of_stands_cons h hcs
  have hfault : (Ending.broken reason).munchFault c ds = some (.readFailed reason) := by
    rw [munchFault_eq, hrun, hrest]
    rfl
  rw [hrest] at h'
  refine ⟨r', _, ?_, h'⟩
  simp only [reply, hnext, hfault, Option.elim_some]

theorem reply_of_stands_whole (h : r.Stands p cs (.broken reason))
    (hcs : cs.dropWhile Text.isBlank = c :: ds) (hwhole : isAlone c = false → munchRest c ds ≠ []) :
    ∃ r', r.reply = ((⟨(munch c ds).1, String.ofList (munch c ds).2,
        p.afterAll (cs.takeWhile Text.isBlank)⟩, none), r') ∧
      r'.Stands ((p.afterAll (cs.takeWhile Text.isBlank)).afterAll (munch c ds).2)
        (munchRest c ds) (.broken reason) := by
  obtain ⟨r', hnext, h'⟩ := next_of_stands_cons h hcs
  have hfault : (Ending.broken reason).munchFault c ds = none := by
    rw [munchFault_eq]
    split
    · rfl
    · next hrun =>
      obtain ⟨d, rest, hrest⟩ := List.exists_cons_of_ne_nil (hwhole (by simpa using hrun))
      rw [hrest, Ending.fault_cons]
  refine ⟨r', ?_, h'⟩
  simp only [reply, hnext, hfault, Option.elim_none]

/-! ### All calls -/

theorem replies_of_fault {r' : Reader} {q : Location}
    (hreply : r.reply = ((.endOfInput, some (.readFailed reason)), r'))
    (h : r'.Stands q [] (.broken reason)) (m : Nat) :
    r.replies m = List.replicate m (.endOfInput, some (.readFailed reason)) := by
  induction m generalizing r r' q with
  | zero => rfl
  | succ m ih =>
    obtain ⟨r'', q', hreply', h''⟩ := reply_of_stands_blank h rfl
    rw [replies, hreply, List.replicate_succ, ih hreply' h'']

theorem replies_of_stands (h : r.Stands p cs (.broken reason)) (m : Nat) :
    r.replies ((uncut cs (scanned p cs)).length + m) =
      (uncut cs (scanned p cs)).map (·, none) ++
        List.replicate m (.endOfInput, some (.readFailed reason)) := by
  -- as scanning does, by lexemes
  induction hn : cs.length using Nat.strongRecOn generalizing r p cs with
  | ind n ih =>
    rw [uncut_scanned_dropWhile]
    cases hcs : cs.dropWhile Text.isBlank with
    | nil =>
      obtain ⟨r', q, hreply, h'⟩ := reply_of_stands_blank h hcs
      rw [scanned_nil, uncut, List.length_nil, Nat.zero_add, replies_of_fault hreply h']
      rfl
    | cons c ds =>
      have hc := isBlank_of_dropWhile hcs
      by_cases hcut : isAlone c = false ∧ munchRest c ds = []
      · obtain ⟨r', q, hreply, h'⟩ := reply_of_stands_cut h hcs hcut.1 hcut.2
        rw [uncut_scanned_of_cut hc hcut.1 hcut.2, List.length_nil, Nat.zero_add,
          replies_of_fault hreply h']
        rfl
      · have hwhole : isAlone c = false → munchRest c ds ≠ [] :=
          fun hrun hrest => hcut ⟨hrun, hrest⟩
        obtain ⟨r', hreply, h'⟩ := reply_of_stands_whole h hcs hwhole
        have htail := ih _ (hn ▸ length_munchRest_lt hcs) h' rfl
        rw [uncut_scanned_of_whole hc hwhole, List.length_cons, Nat.add_right_comm, replies,
          hreply, htail]
        rfl

end Reader

/-- A reader whose text breaks off hands out the lexemes of the text, without a number or a word
at its very end, and nothing but the error and the end of input after them. -/
theorem replies_broken (cs : List Char) (reason : String) :
    ∃ ls, (Reader.ofChars cs .clean).lexemes = .ok ls ∧
      ∀ m, (Reader.ofChars cs (.broken reason)).replies ((uncut cs ls).length + m) =
        (uncut cs ls).map (·, none) ++
          List.replicate m (.endOfInput, some (.readFailed reason)) :=
  ⟨scanned .start cs, Reader.lexemes_of_stands (Reader.stands_ofChars cs .clean),
    Reader.replies_of_stands (Reader.stands_ofChars cs (.broken reason))⟩

-- with a space at the end the number would be handed out
example : (Reader.ofChars "a 12".toList (.broken "reset")).replies 3 =
    [(⟨.ident, "a", ⟨1, 1⟩⟩, none), (.endOfInput, some (.readFailed "reset")),
      (.endOfInput, some (.readFailed "reset"))] := by
  decide +kernel

end ArithCompiler
