import ArithCompiler.Proofs.Building
import ArithCompiler.Proofs.Scanning

/-!
# Why building fails

`Builder.Refuses` lists the ways in which a step can fail, each with what brings it
about (`refuses_of_step`, `step_of_refuses`). A run fails at the first lexeme that is
refused, or when it is finished (`build_eq_error`). The number of open parentheses is
the difference of those opened and closed (`length_groups_add`), so that an error about
the structure of a text is always one about its parentheses (`unbalanced_of_build`).
-/

namespace ArithCompiler

namespace Builder

/-! ### Steps -/

/-- The failing steps of a builder at a lexeme. -/
inductive Refuses (b : Builder) (l : Lexeme) : BuildError → Prop
  | operandAfter {e : Expr} (hk : l.kind = .number ∨ l.kind = .ident)
    (ho : b.current.operand = some e) : Refuses b l ⟨.operandAfter b.current.root, l⟩
  | unclosedGroup {g : OpenGroup} {gs : List OpenGroup} (hk : l.isOperator ";" = true)
    (hg : b.groups = g :: gs) : Refuses b l ⟨.unclosedGroup g.loc, l⟩
  | incompleteStatement (hk : l.isOperator ";" = true) (hg : b.groups = [])
    (ho : b.current.operand = none) (hc : b.current ≠ .empty) :
    Refuses b l ⟨.incompleteStatement b.current.root, l⟩
  | unknownOperator (hk : l.kind = .operator) (hsemi : l.text ≠ ";") (heq : l.text ≠ "=")
    (hs : Operator.ofSymbol? l.text = none) : Refuses b l ⟨.unknownOperator, l⟩
  | noLeftOperand {op : Operator} (hk : l.isOperator op.symbol = true)
    (ho : b.current.operand = none) : Refuses b l ⟨.noLeftOperand, l⟩
  | unmatchedClose (hk : l.kind = .rparen) (hg : b.groups = []) :
    Refuses b l ⟨.unmatchedClose, l⟩
  | incompleteGroup {g : OpenGroup} {gs : List OpenGroup} (hk : l.kind = .rparen)
    (hg : b.groups = g :: gs) (ho : b.current.operand = none) :
    Refuses b l ⟨.incompleteGroup g.loc b.current.root, l⟩
  | groupAfter {g : OpenGroup} {gs : List OpenGroup} {e x : Expr} (hk : l.kind = .rparen)
    (hg : b.groups = g :: gs) (ho : b.current.operand = some e)
    (hp : g.parent.operand = some x) : Refuses b l ⟨.groupAfter g.loc g.parent.root, l⟩
  | returnInGroup {g : OpenGroup} {gs : List OpenGroup} (hk : l.isKeyword "return" = true)
    (hg : b.groups = g :: gs) : Refuses b l ⟨.returnInGroup, l⟩
  | conditional (hk : l.isKeyword "if" = true) : Refuses b l ⟨.conditional, l⟩
  | unknownKeyword (hk : l.kind = .keyword) (ht : l.text ∉ keywords) :
    Refuses b l ⟨.unknownKeyword, l⟩
  | endAsLexeme (hk : l.kind = .eof) : Refuses b l ⟨.endAsLexeme, l⟩
  | unknownLexeme {code : Int} (hk : l.kind = .other code) : Refuses b l ⟨.unknownLexeme code, l⟩

theorem quiet_eq_error {r : Except BuildError Builder} {e : BuildError} (h : quiet r = .error e) :
    r = .error e := by
  cases r with
  | error e' =>
    cases h
    rfl
  | ok b => cases h

theorem finishStatement_eq_error {b : Builder} {l : Lexeme} {e : BuildError}
    (h : b.finishStatement l = .error e) :
    b.current.operand = none ∧ b.current ≠ .empty ∧
      e = ⟨.incompleteStatement b.current.root, l⟩ := by
  unfold finishStatement at h
  cases ho : b.current.operand with
  | some x => simp [ho] at h
  | none =>
    by_cases he : b.current.isEmpty = true
    · simp [ho, he] at h
    · have hne : b.current ≠ .empty := by
        intro hc
        rw [hc] at he
        exact he rfl
      simp only [ho, he] at h
      cases h
      exact ⟨rfl, hne, rfl⟩

theorem refuses_of_operand {b : Builder} {l : Lexeme} {x : Expr} {e : BuildError}
    (hk : l.kind = .number ∨ l.kind = .ident) (h : b.operand l x = .error e) :
    Refuses b l e := by
  unfold operand Draft.attach? at h
  cases ho : b.current.operand with
  | none => simp [ho] at h
  | some y =>
    simp only [ho, Except.error.injEq] at h
    subst h
    exact .operandAfter hk ho

theorem refuses_of_arithmetic {b : Builder} {l : Lexeme} {e : BuildError}
    (hk : l.kind = .operator) (hsemi : l.text ≠ ";") (heq : l.text ≠ "=")
    (h : b.arithmetic l = .error e) : Refuses b l e := by
  unfold arithmetic Draft.operator? at h
  cases hs : Operator.ofSymbol? l.text with
  | none =>
    simp only [hs, Except.error.injEq] at h
    subst h
    exact .unknownOperator hk hsemi heq hs
  | some op =>
    cases ho : b.current.operand with
    | some x => simp [hs, ho] at h
    | none =>
      simp only [hs, ho, Except.error.injEq] at h
      subst h
      have hl : l.isOperator op.symbol = true :=
        Lexeme.isOperator_iff.mpr ⟨hk, Operator.ofSymbol?_eq_some hs⟩
      exact .noLeftOperand hl ho

theorem refuses_of_operator {b : Builder} {l : Lexeme} {e : BuildError}
    (hk : l.kind = .operator) (h : b.operator l = .error e) : Refuses b l e := by
  unfold operator at h
  by_cases hsemi : l.text = ";"
  · rw [if_pos hsemi] at h
    have hl : l.isOperator ";" = true := Lexeme.isOperator_iff.mpr ⟨hk, hsemi⟩
    cases hg : b.groups with
    | cons g gs =>
      simp only [hg, Except.error.injEq] at h
      subst h
      exact .unclosedGroup hl hg
    | nil =>
      simp only [hg] at h
      obtain ⟨ho, hc, rfl⟩ := finishStatement_eq_error (quiet_eq_error h)
      exact .incompleteStatement hl hg ho hc
  · rw [if_neg hsemi] at h
    by_cases heq : l.text = "="
    · rw [if_pos heq] at h
      split at h <;> cases h
    · rw [if_neg heq] at h
      exact refuses_of_arithmetic hk hsemi heq (quiet_eq_error h)

theorem refuses_of_closeGroup {b : Builder} {l : Lexeme} {e : BuildError}
    (hk : l.kind = .rparen) (h : b.closeGroup l = .error e) : Refuses b l e := by
  unfold closeGroup Draft.attach? at h
  cases hg : b.groups with
  | nil =>
    simp only [hg, Except.error.injEq] at h
    subst h
    exact .unmatchedClose hk hg
  | cons g gs =>
    cases ho : b.current.operand with
    | none =>
      simp only [hg, ho, Draft.isComplete, Option.isSome_none, Bool.false_eq_true, ite_false,
        Except.error.injEq] at h
      subst h
      exact .incompleteGroup hk hg ho
    | some x =>
      cases hp : g.parent.operand with
      | none => simp [hg, ho, hp, Draft.isComplete] at h
      | some y =>
        simp only [hg, ho, hp, Draft.isComplete, Option.isSome_some, ite_true,
          Except.error.injEq] at h
        subst h
        exact .groupAfter hk hg ho hp

theorem refuses_of_keyword {b : Builder} {l : Lexeme} {e : BuildError}
    (hk : l.kind = .keyword) (h : b.keyword l = .error e) : Refuses b l e := by
  unfold keyword at h
  by_cases hret : l.text = "return"
  · rw [if_pos hret] at h
    cases hg : b.groups with
    | nil => simp [hg] at h
    | cons g gs =>
      simp only [hg, Except.error.injEq] at h
      subst h
      exact .returnInGroup (Lexeme.isKeyword_iff.mpr ⟨hk, hret⟩) hg
  · rw [if_neg hret] at h
    by_cases hif : l.text = "if"
    · rw [if_pos hif] at h
      cases h
      exact .conditional (Lexeme.isKeyword_iff.mpr ⟨hk, hif⟩)
    · rw [if_neg hif] at h
      cases h
      exact .unknownKeyword hk (by simp [keywords, hret, hif])

theorem refuses_of_step {b : Builder} {l : Lexeme} {e : BuildError} (h : b.step l = .error e) :
    Refuses b l e := by
  unfold step at h
  split at h
  · next hk => exact refuses_of_operand (.inl hk) (quiet_eq_error h)
  · next hk => exact refuses_of_operand (.inr hk) (quiet_eq_error h)
  · next hk => exact refuses_of_operator hk h
  · cases h
  · next hk => exact refuses_of_closeGroup hk (quiet_eq_error h)
  · next hk => exact refuses_of_keyword hk h
  · next hk =>
    cases h
    exact .endAsLexeme hk
  · next hk =>
    cases h
    exact .unknownLexeme hk

theorem step_of_refuses {b : Builder} {l : Lexeme} {e : BuildError} (h : Refuses b l e) :
    b.step l = .error e := by
  cases h with
  | operandAfter hk ho =>
    rcases hk with hk | hk <;> simp [step, hk, operand, Draft.attach?, ho, quiet, Except.map]
  | unclosedGroup hk hg =>
    obtain ⟨hk, ht⟩ := Lexeme.isOperator_iff.mp hk
    simp [step, hk, operator, ht, hg]
  | incompleteStatement hk hg ho hc =>
    obtain ⟨hk, ht⟩ := Lexeme.isOperator_iff.mp hk
    have he : b.current.isEmpty = false := by
      apply Bool.eq_false_iff.mpr
      intro he
      exact hc (Draft.eq_empty_of_isEmpty he)
    simp [step, hk, operator, ht, hg, finishStatement, ho, he, quiet, Except.map]
  | unknownOperator hk hsemi heq hs =>
    simp [step, hk, operator, hsemi, heq, arithmetic, hs, quiet, Except.map]
  | noLeftOperand hk ho =>
    obtain ⟨hk, ht⟩ := Lexeme.isOperator_iff.mp hk
    simp [step, hk, operator, ht, Operator.symbol_ne_semicolon, Operator.symbol_ne_equals,
      arithmetic, Operator.ofSymbol?_symbol, Draft.operator?, ho, quiet, Except.map]
  | unmatchedClose hk hg => simp [step, hk, closeGroup, hg, quiet, Except.map]
  | incompleteGroup hk hg ho =>
    simp [step, hk, closeGroup, hg, ho, Draft.isComplete, quiet, Except.map]
  | groupAfter hk hg ho hp =>
    simp [step, hk, closeGroup, hg, ho, hp, Draft.isComplete, Draft.attach?, quiet, Except.map]
  | returnInGroup hk hg =>
    obtain ⟨hk, ht⟩ := Lexeme.isKeyword_iff.mp hk
    simp [step, hk, keyword, ht, hg]
  | conditional hk =>
    obtain ⟨hk, ht⟩ := Lexeme.isKeyword_iff.mp hk
    simp [step, hk, keyword, ht]
  | unknownKeyword hk ht =>
    simp only [keywords, List.mem_cons, List.not_mem_nil, or_false, not_or] at ht
    simp [step, hk, keyword, ht]
  | endAsLexeme hk => simp [step, hk]
  | unknownLexeme hk => simp [step, hk]

theorem takes_or_refuses (b : Builder) (l : Lexeme) :
    (∃ b' warnings, Takes b l b' warnings) ∨ ∃ e, Refuses b l e := by
  cases hs : b.step l with
  | ok r => exact .inl ⟨r.1, r.2, takes_of_step hs⟩
  | error e => exact .inr ⟨e, refuses_of_step hs⟩

theorem push_of_takes {b b' : Builder} {l : Lexeme} {warnings : List BuildEvent}
    (hf : b.failure = none) (h : Takes b l b' warnings) :
    b.push l = (.ok (warnings ++ [.consumed l b'.current b'.groups.length]), b') := by
  simp only [push, hf, step_of_takes h]

theorem push_of_refuses {b : Builder} {l : Lexeme} {e : BuildError} (hf : b.failure = none)
    (h : Refuses b l e) : b.push l = (.error e, { b with failure := some e }) := by
  simp only [push, hf, step_of_refuses h]

/-! ### Runs -/

theorem exists_of_pushAll_eq_error {b : Builder} {ls : List Lexeme} {events : List BuildEvent}
    {e : BuildError} (hf : b.failure = none) (h : b.pushAll ls = (events, .error e)) :
    ∃ before l after, ls = before ++ l :: after ∧
      ∃ seen b₁, b.pushAll before = (seen, .ok b₁) ∧ Refuses b₁ l e := by
  induction ls generalizing b events with
  | nil => cases h
  | cons l ls ih =>
    cases hs : b.step l with
    | error e' =>
      simp only [pushAll, push, hf, hs] at h
      cases h
      exact ⟨[], l, ls, rfl, [], b, rfl, refuses_of_step hs⟩
    | ok r =>
      obtain ⟨b₁, warnings⟩ := r
      have ht := takes_of_step hs
      have hf₁ := (failure_of_takes ht).trans hf
      cases hr : b₁.pushAll ls with
      | mk rest r =>
        simp only [pushAll, push, hf, hs, hr] at h
        cases h
        obtain ⟨before, m, after, rfl, seen, b₂, hrun, href⟩ := ih hf₁ hr
        have hcons := pushAll_cons_eq_ok.mpr ⟨hf, b₁, warnings, seen, ht, hrun, rfl⟩
        exact ⟨l :: before, m, after, rfl, _, b₂, hcons, href⟩

theorem finish_eq_error {b : Builder} {e : BuildError} (hf : b.failure = none)
    (h : b.finish.1 = .error e) :
    (∃ g gs, b.groups = g :: gs ∧ e = ⟨.unclosedGroup g.loc, .endOfInput⟩) ∨
      (b.groups = [] ∧ b.current.operand = none ∧ b.current ≠ .empty ∧
        e = ⟨.incompleteStatement b.current.root, .endOfInput⟩) := by
  cases hg : b.groups with
  | cons g gs =>
    simp only [finish, hf, hg, Except.error.injEq] at h
    exact .inl ⟨g, gs, rfl, h.symm⟩
  | nil =>
    cases hs : b.finishStatement .endOfInput with
    | ok b' => simp [finish, hf, hg, hs] at h
    | error e' =>
      simp only [finish, hf, hg, hs, Except.error.injEq] at h
      subst h
      exact .inr ⟨rfl, finishStatement_eq_error hs⟩

theorem failure_of_pushAll {b b' : Builder} {ls : List Lexeme} {events : List BuildEvent}
    (h : b.pushAll ls = (events, .ok b')) (hf : b.failure = none) : b'.failure = none :=
  pushAll_keeps (P := fun b => b.failure = none)
    (fun _ _ _ _ _ ht hf => (failure_of_takes ht).trans hf) h hf

end Builder

open Builder

theorem build_eq_error {ls : List Lexeme} {events : List BuildEvent} {e : BuildError}
    (h : build ls = (events, .error e)) :
    (∃ before l after, ls = before ++ l :: after ∧
      ∃ seen b, Builder.new.pushAll before = (seen, .ok b) ∧ Refuses b l e) ∨
    ∃ b, Builder.new.pushAll ls = (events, .ok b) ∧ b.finish.1 = .error e := by
  unfold build at h
  cases hr : Builder.new.pushAll ls with
  | mk evs r =>
    cases r with
    | error e' =>
      simp only [hr, Except.bind, Prod.mk.injEq, Except.error.injEq] at h
      obtain ⟨rfl, rfl⟩ := h
      exact .inl (exists_of_pushAll_eq_error rfl hr)
    | ok b =>
      simp only [hr, Except.bind, Prod.mk.injEq] at h
      obtain ⟨rfl, hfinish⟩ := h
      exact .inr ⟨b, rfl, hfinish⟩

/-! ### Parentheses -/

/-- The number of parentheses that are opened. -/
def opened (ls : List Lexeme) : Nat := ls.countP (·.kind = .lparen)

/-- The number of parentheses that are closed. -/
def closed (ls : List Lexeme) : Nat := ls.countP (·.kind = .rparen)

theorem opened_cons (l : Lexeme) (ls : List Lexeme) : opened (l :: ls) = opened ls + opened [l] := by
  simp [opened, List.countP_cons]

theorem closed_cons (l : Lexeme) (ls : List Lexeme) : closed (l :: ls) = closed ls + closed [l] := by
  simp [closed, List.countP_cons]

theorem Builder.length_groups_takes {b b' : Builder} {l : Lexeme} {warnings : List BuildEvent}
    (h : Takes b l b' warnings) :
    b'.groups.length + closed [l] = b.groups.length + opened [l] := by
  -- all lexemes but parentheses leave the groups as they are
  have hother : l.kind ≠ .lparen → l.kind ≠ .rparen → opened [l] = 0 ∧ closed [l] = 0 := by
    intro ho hc
    simp [opened, closed, ho, hc]
  have hoperator : ∀ {text}, l.isOperator text = true → opened [l] = 0 ∧ closed [l] = 0 := by
    intro text hk
    have hkind := (Lexeme.isOperator_iff.mp hk).1
    exact hother (by simp [hkind]) (by simp [hkind])
  cases h with
  | number hk => simp [hother (by simp [hk]) (by simp [hk])]
  | name hk => simp [hother (by simp [hk]) (by simp [hk])]
  | arithmetic hk => simp [hoperator hk]
  | endStatement hk => simp [hoperator hk]
  | endNothing hk => simp [hoperator hk]
  | assign hk => simp [hoperator hk]
  | dropAssign hk => simp [hoperator hk]
  | openGroup hk => simp [opened, closed, hk]
  | closeGroup hk hg => simp [opened, closed, hk, hg]
  | startReturn hk =>
    have hkind := (Lexeme.isKeyword_iff.mp hk).1
    simp [hother (by simp [hkind]) (by simp [hkind])]

theorem Builder.length_groups_add {b b' : Builder} {ls : List Lexeme} {events : List BuildEvent}
    (h : b.pushAll ls = (events, .ok b')) :
    b'.groups.length + closed ls = b.groups.length + opened ls := by
  induction ls generalizing b events with
  | nil =>
    cases h
    rfl
  | cons l ls ih =>
    obtain ⟨_, b₁, warnings, rest, ht, hrest, _⟩ := pushAll_cons_eq_ok.mp h
    have hstep := length_groups_takes ht
    have hrun := ih hrest
    rw [opened_cons, closed_cons]
    omega

theorem Builder.depth_of_pushAll {b : Builder} {ls : List Lexeme} {events : List BuildEvent}
    (h : Builder.new.pushAll ls = (events, .ok b)) : b.groups.length + closed ls = opened ls := by
  have hdepth := length_groups_add h
  have hnew : Builder.new.groups.length = 0 := rfl
  omega

/-- The ways in which the parentheses of a text can be wrong, each with its error. -/
inductive Unbalanced (ls : List Lexeme) : BuildError → Prop
  /-- A parenthesis is closed and none is open. -/
  | close {before after : List Lexeme} {l : Lexeme} (hls : ls = before ++ l :: after)
    (hl : l.kind = .rparen) (hd : opened before = closed before) :
    Unbalanced ls ⟨.unmatchedClose, l⟩
  /-- A statement ends inside of a parenthesis. -/
  | semicolon {before after : List Lexeme} {l : Lexeme} {loc : Location}
    (hls : ls = before ++ l :: after) (hl : l.isOperator ";" = true)
    (hd : closed before < opened before) : Unbalanced ls ⟨.unclosedGroup loc, l⟩
  /-- A parenthesis is open at the end. -/
  | atEnd {loc : Location} (hd : closed ls < opened ls) :
    Unbalanced ls ⟨.unclosedGroup loc, .endOfInput⟩

theorem Builder.Refuses.unbalanced {b : Builder} {before after : List Lexeme} {l : Lexeme}
    {seen : List BuildEvent} {e : BuildError} (href : Refuses b l e)
    (hrun : Builder.new.pushAll before = (seen, .ok b)) (hl : l.isSpelled = true)
    (hk : e.kind = .structural) : Unbalanced (before ++ l :: after) e := by
  have hdepth := depth_of_pushAll hrun
  cases href with
  | unclosedGroup hsemi hg =>
    rw [hg, List.length_cons] at hdepth
    exact .semicolon rfl hsemi (by omega)
  | unmatchedClose hclose hg =>
    rw [hg, List.length_nil] at hdepth
    exact .close rfl hclose (by omega)
  | unknownKeyword hkind ht => simp [Lexeme.isSpelled, hkind, ht] at hl
  | endAsLexeme hkind => simp [Lexeme.isSpelled, hkind] at hl
  | unknownLexeme hkind => simp [Lexeme.isSpelled, hkind] at hl
  | _ => cases hk

theorem unbalanced_of_build {ls : List Lexeme} {events : List BuildEvent} {e : BuildError}
    (hls : ∀ l ∈ ls, l.isSpelled = true) (h : build ls = (events, .error e))
    (hk : e.kind = .structural) : Unbalanced ls e := by
  rcases build_eq_error h with ⟨before, l, after, rfl, seen, b, hrun, href⟩ | ⟨b, hrun, hfinish⟩
  · exact href.unbalanced hrun (hls l (by simp)) hk
  · have hdepth := depth_of_pushAll hrun
    rcases finish_eq_error (failure_of_pushAll hrun rfl) hfinish with
      ⟨g, gs, hg, rfl⟩ | ⟨_, _, _, rfl⟩
    · rw [hg, List.length_cons] at hdepth
      exact .atEnd (by omega)
    · cases hk

end ArithCompiler
