import ArithCompiler.Proofs.Failures
import ArithCompiler.Proofs.Places
import ArithCompiler.Proofs.Regrouping
import ArithCompiler.Proofs.Segmentation

/-!
# White space has no meaning

The words of a text, with any white space around them and between them, are a text of the same
words (`words_spread`). Such texts have the same lexemes but for places, so that building them
gives the same trees or the same error but for places, and lowering these the same code
(`sameOutcome_compile`).
-/

namespace ArithCompiler

/-- Some words, each followed by white space, behind some white space. -/
def spread (first : Blanks) (ws : List (String × Blanks)) : List Char :=
  first.val ++ ws.flatMap fun w => w.1.toList ++ w.2.val

/-! ### Words by themselves -/

theorem IsRun.alone {cls : Char → Bool} {run rest : List Char} (h : IsRun cls run rest) :
    IsRun cls run [] :=
  ⟨h.nonempty, h.members, by simp⟩

theorem words_munch {c : Char} (hc : Text.isBlank c = false) (cs : List Char) :
    words (munch c cs).2 = [((munch c cs).1, String.ofList (munch c cs).2)] := by
  by_cases hd : isDigit c = true
  · have h := words_number (isRun_span hd cs).alone
    simpa only [munch, hd, ite_true, List.append_nil, words_nil] using h
  · by_cases hl : isLetter c = true
    · have h := words_letters (isRun_span hl cs).alone
      simpa only [munch, hd, hl, Bool.false_eq_true, ite_false, ite_true, wordKind_eq,
        List.append_nil, words_nil] using h
    · -- a character that is in no run is a word whatever follows it
      have hmunch : munch c cs = munch c [] := by simp [munch, hd, hl]
      have hchars : (munch c []).2 = [c] := by
        simp only [munch, hd, hl, Bool.false_eq_true, ite_false]
        split
        · rfl
        · split <;> rfl
      have hrest : munchRest c [] = [] := by simp [munchRest, hd, hl]
      rw [hmunch, hchars, words_cons [] hc, hrest, words_nil, hchars]

theorem words_of_mem_scanned {p : Location} {cs : List Char} {l : Lexeme}
    (h : l ∈ scanned p cs) : words l.text.toList = [l.word] := by
  fun_induction scanned p cs with
  | case1 => cases h
  | case2 p c cs hc ih => exact ih h
  | case3 p c cs hc ih =>
    rcases List.mem_cons.mp h with rfl | h
    · have hword := words_munch (by simpa using hc) cs
      simpa only [Lexeme.word, String.toList_ofList] using hword
    · exact ih h

theorem map_text_eq (ls : List Lexeme) :
    ls.map Lexeme.text = (ls.map Lexeme.word).map Prod.snd := by
  rw [List.map_map]
  rfl

/-! ### Texts of words -/

theorem spread_cons (first : Blanks) (w : String × Blanks) (ws : List (String × Blanks)) :
    spread first (w :: ws) = first.val ++ (w.1.toList ++ spread w.2 ws) := by
  simp [spread]

theorem isAlone_head_spread {b : Blanks} {ws : List (String × Blanks)}
    (h : ws ≠ [] → b.val ≠ []) : ∀ c ∈ (spread b ws).head?, isAlone c = true := by
  intro c hc
  cases hb : b.val with
  | nil =>
    have hws : ws = [] := by
      by_contra hne
      exact h hne hb
    simp [spread, hb, hws] at hc
  | cons d ds =>
    have hd : Text.isBlank d = true := b.property d (by simp [hb])
    have hcd : d = c := by simpa [spread, hb] using hc
    exact hcd ▸ isAlone_of_isBlank hd

theorem spaced_spread (first : Blanks) {ws : List (String × Blanks)}
    (h : ∀ w ∈ ws.dropLast, w.2.val ≠ []) : Spaced (ws.map Prod.fst) (spread first ws) := by
  induction ws generalizing first with
  | nil =>
    simp only [spread, List.flatMap_nil, List.append_nil]
    exact .nil first
  | cons w ws ih =>
    have hgap : ws ≠ [] → w.2.val ≠ [] := by
      intro hne
      rw [List.dropLast_cons_of_ne_nil hne] at h
      exact h w (List.mem_cons_self ..)
    have hrest : ∀ v ∈ ws.dropLast, v.2.val ≠ [] := by
      intro v hv
      have hne : ws ≠ [] := by
        rintro rfl
        cases hv
      rw [List.dropLast_cons_of_ne_nil hne] at h
      exact h v (List.mem_cons_of_mem _ hv)
    rw [spread_cons]
    exact .cons first w.1 (ih w.2 hrest)
      (separate_of_head w.1.toList (isAlone_head_spread hgap))

theorem words_spread {cs : List Char} (first : Blanks) {ws : List (String × Blanks)}
    (hws : ws.map Prod.fst = (words cs).map Prod.snd) (h : ∀ w ∈ ws.dropLast, w.2.val ≠ []) :
    words (spread first ws) = words cs := by
  refine words_spaced (hws ▸ spaced_spread first h) ?_
  intro w hw
  obtain ⟨l, hl, rfl⟩ := List.mem_map.mp hw
  exact words_of_mem_scanned hl

/-! ### Trees of the same words -/

theorem map_unlocated_of_words {ls ms : List Lexeme}
    (h : ls.map Lexeme.word = ms.map Lexeme.word) :
    ls.map Lexeme.unlocated = ms.map Lexeme.unlocated := by
  have hfun : Lexeme.unlocated = (fun w : Word => ⟨w.1, w.2, .nowhere⟩) ∘ Lexeme.word := rfl
  rw [hfun, ← List.map_map, h, List.map_map]

theorem Expr.bare_unlocated (e : Expr) : e.unlocated.bare = e.bare := by
  induction e with
  | hole | literal | var => rfl
  | binary loc left op right ihl ihr => simp only [unlocated, bare, ihl, ihr]
  | assign loc name value ih => simp only [unlocated, bare, ih]
  | ret loc value ih => simp only [unlocated, bare, ih]
  | group loc inner ih => exact ih

theorem Expr.isReturn_unlocated (e : Expr) : e.unlocated.isReturn = e.isReturn := by
  cases e <;> rfl

theorem Expr.alike_of_unlocated {s t : Expr} (h : s.unlocated = t.unlocated) : s.Alike t where
  bare := by rw [← s.bare_unlocated, h, t.bare_unlocated]
  isReturn := by rw [← s.isReturn_unlocated, h, t.isReturn_unlocated]

theorem forall₂_alike_of_unlocated {p q : Program}
    (h : p.map Expr.unlocated = q.map Expr.unlocated) : List.Forall₂ Expr.Alike p q := by
  rw [← List.forall₂_eq_eq_eq, List.forall₂_map_left_iff, List.forall₂_map_right_iff] at h
  exact h.imp fun s t hst => Expr.alike_of_unlocated hst

/-! ### Outcomes -/

/-- Two results of compiling that show the same: the same text, errors of building of the same
kind, or the same variable that is read in the same statement before it is assigned. -/
inductive SameOutcome (o : Options) :
    Except CompileError Compiled → Except CompileError Compiled → Prop
  | text {c c' : Compiled} (h : c.render o = c'.render o) : SameOutcome o (.ok c) (.ok c')
  | build {e e' : BuildError} (h : e.kind = e'.kind) :
    SameOutcome o (.error (.build e)) (.error (.build e'))
  | unassigned {e e' : GenerateError} {name : String} {loc loc' : Location}
    (hs : e.statement = e'.statement) (h : e.cause = .unassigned name loc)
    (h' : e'.cause = .unassigned name loc') :
    SameOutcome o (.error (.generate e)) (.error (.generate e'))

theorem sameOutcome_of_generate {o : Options} {p q : Program} {e e' : GenerateError}
    {l l' : Layout} (hp : ∀ s ∈ p, s.isStatement = true) (hq : ∀ s ∈ q, s.isStatement = true)
    (h : generate p o.function = (.error e, l)) (h' : generate q o.function = (.error e', l'))
    (hbare : e.bare = e'.bare) :
    SameOutcome o (.error (.generate e)) (.error (.generate e')) := by
  obtain ⟨_, _, x, loc, hcause, _⟩ := generate_eq_error hp h
  obtain ⟨_, _, x', loc', hcause', _⟩ := generate_eq_error hq h'
  have hstatement : e.statement = e'.statement := congrArg (·.statement) hbare
  have hname : e.cause.bare = e'.cause.bare := congrArg (·.cause) hbare
  rw [hcause, hcause'] at hname
  cases hname
  exact .unassigned hstatement hcause hcause'

theorem sameOutcome_compile {o : Options} (ho : o.dump = .none) {source source' : List UInt8}
    {ls ms : List Lexeme} (hls : tokenize source = .ok ls) (hms : tokenize source' = .ok ms)
    (hwords : ls.map Lexeme.word = ms.map Lexeme.word) :
    SameOutcome o (compile o source).2 (compile o source').2 := by
  have hbuild := build_unlocated ls
  rw [map_unlocated_of_words hwords, build_unlocated ms] at hbuild
  cases hb : build ls with
  | mk events r =>
    cases hb' : build ms with
    | mk events' r' =>
      rw [hb, hb'] at hbuild
      cases r with
      | error e =>
        cases r' with
        | ok q => cases hbuild
        | error e' =>
          have he : e'.unlocated = e.unlocated := Except.error.inj hbuild
          have hkind : e.kind = e'.kind := by rw [← e.kind_unlocated, ← he, e'.kind_unlocated]
          rw [compile_of_build_eq_error o hls hb, compile_of_build_eq_error o hms hb']
          exact .build hkind
      | ok p =>
        cases r' with
        | error e' => cases hbuild
        | ok q =>
          have hpq : q.map Expr.unlocated = p.map Expr.unlocated := Except.ok.inj hbuild
          have hagree := generate_alike (forall₂_alike_of_unlocated hpq.symm) o.function
          generalize hg : generate p o.function = x at hagree
          generalize hg' : generate q o.function = y at hagree
          cases hagree with
          | ok g l =>
            have hok : (compile o source).2 = .ok ⟨p, g.function⟩ :=
              compile_eq_ok.mpr ⟨ls, events, g, l, hls, hb, hg, rfl⟩
            have hok' : (compile o source').2 = .ok ⟨q, g.function⟩ :=
              compile_eq_ok.mpr ⟨ms, events', g, l, hms, hb', hg', rfl⟩
            rw [hok, hok']
            exact .text (by simp only [Compiled.render, ho, DumpMode.render])
          | error hbare l =>
            rw [compile_of_generate_eq_error hls hb hg, compile_of_generate_eq_error hms hb' hg']
            exact sameOutcome_of_generate (isStatement_of_build hls hb)
              (isStatement_of_build hms hb') hg hg' hbare

/-- The words of a text with other white space around them, and some between any two of them,
are a text of the same words. Without a dump, compiling it ends the same way: in the same text,
in an error of building of the same kind, or at the same variable without a value. -/
theorem compile_respaced (source : List UInt8) :
    ∃ ls, tokenize source = .ok ls ∧
      ∀ (first : Blanks) (ws : List (String × Blanks)), ws.map Prod.fst = ls.map Lexeme.text →
        (∀ w ∈ ws.dropLast, w.2.val ≠ []) →
        ∃ ms, tokenize (Text.encode (String.ofList (spread first ws))) = .ok ms ∧
          ms.map Lexeme.word = ls.map Lexeme.word ∧
          ∀ o : Options, o.dump = .none →
            SameOutcome o (compile o source).2
              (compile o (Text.encode (String.ofList (spread first ws)))).2 := by
  have hls := tokenize_eq source
  refine ⟨_, hls, ?_⟩
  intro first ws hws hgaps
  obtain ⟨ms, hms⟩ : ∃ ms, tokenize (Text.encode (String.ofList (spread first ws))) = .ok ms :=
    ⟨_, tokenize_eq _⟩
  have hwords := map_word_tokenize hls
  have htexts : ws.map Prod.fst = (words (Text.decode source)).map Prod.snd := by
    rw [hws, map_text_eq, hwords]
  have hsame := map_word_tokenize hms
  rw [Text.decode_encode, String.toList_ofList, words_spread first htexts hgaps, ← hwords] at hsame
  exact ⟨ms, hms, hsame, fun o ho => sameOutcome_compile ho hls hms hsame.symm⟩

theorem compile_respaced_halving :
    ∃ ms, tokenize (Text.encode "\n x\u00a0=\t4 / 2\n; x") = .ok ms ∧
      ms.map Lexeme.word = [(.ident, "x"), (.operator, "="), (.number, "4"), (.operator, "/"),
        (.number, "2"), (.operator, ";"), (.ident, "x")] ∧
      ∀ o : Options, o.dump = .none →
        SameOutcome o (compile o (Text.encode "x=4/2;x")).2
          (compile o (Text.encode "\n x\u00a0=\t4 / 2\n; x")).2 := by
  obtain ⟨ls, hls, hrespaced⟩ := compile_respaced (Text.encode "x=4/2;x")
  have hwords : ls.map Lexeme.word = [(.ident, "x"), (.operator, "="), (.number, "4"),
      (.operator, "/"), (.number, "2"), (.operator, ";"), (.ident, "x")] := by
    rw [map_word_tokenize hls]
    decide +kernel
  have htexts : ls.map Lexeme.text = ["x", "=", "4", "/", "2", ";", "x"] := by
    rw [map_text_eq, hwords]
    rfl
  have h := hrespaced ⟨['\n', ' '], List.all_eq_true.mp (by decide)⟩
    [("x", ⟨['\u00a0'], List.all_eq_true.mp (by decide)⟩),
      ("=", ⟨['\t'], List.all_eq_true.mp (by decide)⟩), ("4", .space), ("/", .space),
      ("2", ⟨['\n'], List.all_eq_true.mp (by decide)⟩), (";", .space), ("x", .empty)]
    htexts.symm (by decide)
  rw [hwords] at h
  exact h

end ArithCompiler
