import ArithCompiler.Proofs.BrokenTexts

/-!
# Progress of scanning

A call for the next lexeme ends in one of three ways (`ends_next`): the text breaks off, nothing but
white space is left, or a lexeme has taken at least one character. It never fails because a
character is put back already: what is put back was read just before. So the calls for the lexemes
of a text come to its end, after at most as many lexemes as there are characters.
-/

namespace ArithCompiler

namespace Reader

/-! ### Putting back -/

/-- Behind a read there is room to put a character back. -/
theorem unread_ne_none_of_read {r r' : Reader} {c : Char} (h : r.read = .ok (c, r')) (d : Char) :
    r'.unread d ≠ none := by
  simp [unread, pushed_of_read h]

theorem skipBlanks_fault {r : Reader} {e : ScanError} (h : (skipBlanks r).1 = some e) :
    ∃ reason, e = .readFailed reason := by
  fun_induction skipBlanks r with
  | case1 => cases h
  | case2 r reason _ => exact ⟨reason, (Option.some.inj h).symm⟩
  | case3 r c r' hread hc ih => exact ih h
  | case4 => cases h
  | case5 r c r' hread hc hfull => exact absurd hfull (unread_ne_none_of_read hread c)

theorem takeRun_fault {cls : Char → Bool} {r : Reader} {e : ScanError}
    (h : (takeRun cls r).1 = .error e) : ∃ reason, e = .readFailed reason := by
  fun_induction takeRun cls r with
  | case1 => cases h
  | case2 r reason _ => exact ⟨reason, (Except.error.inj h).symm⟩
  | case3 => cases h
  | case4 r c r' hread hc e' r'' htake ih =>
    rw [htake] at ih
    exact ih h
  | case5 => cases h
  | case6 r c r' hread hc hfull => exact absurd hfull (unread_ne_none_of_read hread c)

theorem runLexeme_cases (cls : Char → Bool) (kindOf : String → LexemeKind) (loc : Location)
    {r r' : Reader} {c : Char} (hread : r.read = .ok (c, r')) :
    (∃ reason r'', runLexeme cls kindOf loc c r' = (.error (.readFailed reason), r'')) ∨
      ∃ text r'', runLexeme cls kindOf loc c r' = (.ok ⟨kindOf text, text, loc⟩, r'') := by
  cases hunread : r'.unread c with
  | none => exact absurd hunread (unread_ne_none_of_read hread c)
  | some r₁ =>
    simp only [runLexeme, hunread]
    cases htake : takeRun cls r₁ with
    | mk result r₂ =>
      cases result with
      | ok cs => exact .inr ⟨String.ofList cs, r₂, rfl⟩
      | error e =>
        obtain ⟨reason, rfl⟩ := takeRun_fault (e := e) (by rw [htake])
        exact .inl ⟨reason, r₂, rfl⟩

/-! ### What is left to read -/

theorem length_rest (r : Reader) : r.rest.length = r.remaining := by
  simp only [rest, remaining, List.length_append, Nat.add_comm]

theorem rest_of_read {r r' : Reader} {c : Char} (h : r.read = .ok (c, r')) :
    r.rest = c :: r'.rest := by
  unfold read at h
  split at h
  · next hp => cases h; simp [rest, hp]
  · next hp =>
    split at h
    · next hq => cases h; simp [rest, hp, hq]
    · cases h

theorem rest_of_read_finished {r : Reader} (h : r.read = .error .finished) : r.rest = [] := by
  unfold read at h
  split at h
  · cases h
  · next hp =>
    split at h
    · cases h
    · next hq => simp [rest, hp, hq]

theorem rest_of_unread {r r' : Reader} {c : Char} (h : r.unread c = some r') :
    r'.rest = c :: r.rest := by
  unfold unread at h
  split at h
  · cases h
  · next hp => cases h; simp [rest, hp]

/-- What is skipped is white space. -/
theorem exists_rest_skipBlanks (r : Reader) :
    ∃ blanks, r.rest = blanks ++ (skipBlanks r).2.rest ∧ ∀ c ∈ blanks, Text.isBlank c = true := by
  fun_induction skipBlanks r with
  | case1 => exact ⟨[], rfl, by simp⟩
  | case2 => exact ⟨[], rfl, by simp⟩
  | case3 r c r' hread hc ih =>
    obtain ⟨blanks, hrest, hblanks⟩ := ih
    refine ⟨c :: blanks, ?_, List.forall_mem_cons.mpr ⟨hc, hblanks⟩⟩
    rw [rest_of_read hread, hrest, List.cons_append]
  | case4 r c r' hread hc r'' hunread =>
    refine ⟨[], ?_, by simp⟩
    rw [rest_of_read hread, rest_of_unread hunread, List.nil_append]
  | case5 r c r' hread hc hfull => exact absurd hfull (unread_ne_none_of_read hread c)

/-! ### How a call ends -/

/-- The ways in which a call for the next lexeme can end. -/
inductive Ends (r : Reader) : Except ScanError Lexeme × Reader → Prop
  | failed (reason : String) (r' : Reader) : Ends r (.error (.readFailed reason), r')
  | finished {r' : Reader} (hrest : r'.remaining = 0)
    (hblank : ∀ c ∈ r.rest, Text.isBlank c = true) : Ends r (.ok ⟨.eof, "", r'.place⟩, r')
  | lexeme {l : Lexeme} {r' : Reader} (hkind : l.kind ≠ .eof)
    (hlt : r'.remaining < r.remaining) : Ends r (.ok l, r')

theorem wordKind_ne_eof (word : String) : wordKind word ≠ .eof := by
  unfold wordKind
  split <;> simp

theorem ends_of_lexeme {r r' : Reader} {l : Lexeme} (hnext : r.next = (.ok l, r'))
    (hkind : l.kind ≠ .eof) : Ends r r.next := by
  rw [hnext]
  exact .lexeme hkind (remaining_of_next hnext hkind)

theorem ends_of_run {r r₀ r₁ : Reader} {cls : Char → Bool} {kindOf : String → LexemeKind}
    {loc : Location} {c : Char} (hread : r₀.read = .ok (c, r₁))
    (hnext : r.next = runLexeme cls kindOf loc c r₁) (hkind : ∀ text, kindOf text ≠ .eof) :
    Ends r r.next := by
  rcases runLexeme_cases cls kindOf loc hread with ⟨reason, r₂, hrun⟩ | ⟨text, r₂, hrun⟩
  · rw [hnext, hrun]
    exact .failed reason r₂
  · exact ends_of_lexeme (hnext.trans hrun) (hkind text)

theorem ends_next (r : Reader) : Ends r r.next := by
  obtain ⟨blanks, hrest, hblanks⟩ := exists_rest_skipBlanks r
  cases hskip : skipBlanks r with
  | mk fault r₀ =>
    rw [hskip] at hrest
    cases fault with
    | some e =>
      obtain ⟨reason, rfl⟩ := skipBlanks_fault (e := e) (by rw [hskip])
      rw [next, hskip]
      exact .failed reason r₀
    | none =>
      cases hread : r₀.read with
      | error stop =>
        simp only [next, hskip, hread]
        cases stop with
        | failed reason => exact .failed reason r₀
        | finished =>
          have hnil := rest_of_read_finished hread
          rw [hnil, List.append_nil] at hrest
          exact .finished (by rw [← length_rest, hnil, List.length_nil]) (hrest ▸ hblanks)
      | ok found =>
        obtain ⟨c, r₁⟩ := found
        by_cases hd : isDigit c = true
        · have hnext : r.next = runLexeme isDigit (fun _ => .number) r₀.place c r₁ := by
            simp only [next, hskip, hread, hd, ite_true]
          exact ends_of_run hread hnext (by simp)
        · by_cases hl : isLetter c = true
          · have hnext : r.next = runLexeme isLetter wordKind r₀.place c r₁ := by
              simp only [next, hskip, hread, hd, hl, Bool.false_eq_true, ite_false, ite_true]
            exact ends_of_run hread hnext wordKind_ne_eof
          · have hnext : r.next =
                if c = '(' then (.ok ⟨.lparen, "(", r₀.place⟩, r₁)
                else if c = ')' then (.ok ⟨.rparen, ")", r₀.place⟩, r₁)
                else (.ok ⟨.operator, String.singleton c, r₀.place⟩, r₁) := by
              simp only [next, hskip, hread, hd, hl, Bool.false_eq_true, ite_false]
            split at hnext
            · exact ends_of_lexeme hnext (by simp)
            · split at hnext <;> exact ends_of_lexeme hnext (by simp)

/-! ### Calls up to the end -/

theorem reply_of_next_ok {r r' : Reader} {l : Lexeme} (h : r.next = (.ok l, r')) :
    r.reply = ((l, none), r') := by
  simp only [reply, h]

theorem length_lexemes_le {r : Reader} {ls : List Lexeme} (h : r.lexemes = .ok ls) :
    ls.length ≤ r.remaining := by
  fun_induction lexemes r generalizing ls with
  | case1 => cases h
  | case2 =>
    cases h
    exact Nat.zero_le _
  | case3 r l r' hnext hl ih =>
    have hlt := remaining_of_next hnext hl
    cases hrest : r'.lexemes with
    | error e => rw [hrest] at h; cases h
    | ok ms =>
      rw [hrest] at h
      cases h
      have hle := ih hrest
      simp only [List.length_cons]
      omega

theorem replies_of_lexemes {r : Reader} {ls : List Lexeme} (h : r.lexemes = .ok ls) :
    (∀ l ∈ ls, l.kind ≠ .eof) ∧
      ∃ l, l.kind = .eof ∧ r.replies (ls.length + 1) = ls.map (·, none) ++ [(l, none)] := by
  fun_induction lexemes r generalizing ls with
  | case1 => cases h
  | case2 r l r' hnext hl =>
    cases h
    refine ⟨by simp, l, hl, ?_⟩
    rw [List.length_nil, replies, reply_of_next_ok hnext]
    rfl
  | case3 r l r' hnext hl ih =>
    cases hrest : r'.lexemes with
    | error e => rw [hrest] at h; cases h
    | ok ms =>
      rw [hrest] at h
      cases h
      obtain ⟨hkinds, last, hlast, hreplies⟩ := ih hrest
      refine ⟨List.forall_mem_cons.mpr ⟨hl, hkinds⟩, last, hlast, ?_⟩
      rw [List.length_cons, replies, reply_of_next_ok hnext, hreplies]
      rfl

end Reader

theorem Text.length_trim_le (cs : List Char) : (trim cs).length ≤ cs.length := by
  obtain ⟨bs, es, -, -, hcs⟩ := exists_trim cs
  have hlen := congrArg List.length hcs
  simp only [List.length_append] at hlen
  omega

/-- No call puts a character back where one is put back already. A call for a lexeme takes at least
one character, and hands out the end of input without an error only when nothing but white space
was left. So all calls for the lexemes of a text come to its end, and there are at most as many
lexemes as characters. -/
theorem reply_progress :
    (∀ r : Reader, r.reply.1.2 ≠ some .pushBackFull ∧
      (r.reply.1.1.kind ≠ .eof → r.reply.2.remaining < r.remaining) ∧
      (r.reply.1.1.kind = .eof → r.reply.1.2 = none →
        r.reply.2.remaining = 0 ∧ ∀ c ∈ r.rest, Text.isBlank c = true)) ∧
    ∀ source : List UInt8, ∃ ls, tokenize source = .ok ls ∧
      ls.length ≤ (Text.decode source).length ∧ (∀ l ∈ ls, l.kind ≠ .eof) ∧
      ∃ l, l.kind = .eof ∧
        (Reader.ofChars (Text.trim (Text.decode source)) .clean).replies (ls.length + 1) =
          ls.map (·, none) ++ [(l, none)] := by
  constructor
  · intro r
    have hends := r.ends_next
    generalize hnext : r.next = x at hends
    cases hends with
    | failed reason r' =>
      simp only [Reader.reply, hnext]
      refine ⟨by simp, fun hkind => absurd rfl hkind, ?_⟩
      intro _ hnone
      cases hnone
    | finished hrest hblank =>
      rw [Reader.reply_of_next_ok hnext]
      exact ⟨by simp, fun hkind => absurd rfl hkind, fun _ _ => ⟨hrest, hblank⟩⟩
    | lexeme hkind hlt =>
      rw [Reader.reply_of_next_ok hnext]
      exact ⟨by simp, fun _ => hlt, fun heof => absurd heof hkind⟩
  · intro source
    have hscan := tokenize_eq source
    have hlexemes : (Reader.ofChars (Text.trim (Text.decode source)) .clean).lexemes =
        .ok (scanned .start (Text.trim (Text.decode source))) := hscan
    have hlen := Reader.length_lexemes_le hlexemes
    have htrim := Text.length_trim_le (Text.decode source)
    obtain ⟨hkinds, hreplies⟩ := Reader.replies_of_lexemes hlexemes
    refine ⟨_, hscan, ?_, hkinds, hreplies⟩
    simp only [Reader.remaining, Reader.ofChars, Option.toList_none, List.length_nil,
      Nat.add_zero] at hlen
    exact Nat.le_trans hlen htrim

/-- The reader that has handed out the number of `12+` and a space, with the operator put back. -/
def behindNumber : Reader := (Reader.ofChars "12+ ".toList .clean).reply.2

theorem reply_progress_behindNumber :
    behindNumber.pushed = some '+' ∧ behindNumber.reply.1.1.kind = .operator ∧
    behindNumber.reply.2.remaining < behindNumber.remaining ∧
    behindNumber.reply.2.reply.1 = (⟨.eof, "", ⟨1, 5⟩⟩, none) ∧
    behindNumber.reply.2.reply.2.remaining = 0 := by
  have hkind : behindNumber.reply.1.1.kind = .operator := by decide +kernel
  have hended : behindNumber.reply.2.reply.1 = (⟨.eof, "", ⟨1, 5⟩⟩, none) := by decide +kernel
  obtain ⟨-, htakes, -⟩ := reply_progress.1 behindNumber
  obtain ⟨-, -, hlast⟩ := reply_progress.1 behindNumber.reply.2
  exact ⟨by decide +kernel, hkind, htakes (by simp [hkind]), hended,
    (hlast (by rw [hended]) (by rw [hended])).1⟩

end ArithCompiler
