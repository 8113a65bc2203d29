import ArithCompiler.Tree.Builder

/-!
# What a builder does with a lexeme

`Builder.Takes` lists the ways in which a step can succeed, each with what it
needs and what it changes (`takes_of_step`, `step_of_takes`). What every such step
keeps holds of every run (`pushAll_keeps`).
-/

namespace ArithCompiler

theorem Lexeme.isOperator_iff {l : Lexeme} {text : String} :
    l.isOperator text = true ↔ l.kind = .operator ∧ l.text = text := by
  simp [Lexeme.isOperator]

theorem Lexeme.isKeyword_iff {l : Lexeme} {word : String} :
    l.isKeyword word = true ↔ l.kind = .keyword ∧ l.text = word := by
  simp [Lexeme.isKeyword]

theorem Operator.symbol_ne_semicolon (op : Operator) : op.symbol ≠ ";" := by
  cases op <;> decide

theorem Operator.symbol_ne_equals (op : Operator) : op.symbol ≠ "=" := by
  cases op <;> decide

theorem Operator.ofSymbol?_eq_some {s : String} {op : Operator}
    (h : Operator.ofSymbol? s = some op) : s = op.symbol := by
  unfold Operator.ofSymbol? at h
  split at h
  · next hs => cases h; exact hs
  · split at h
    · next hs => cases h; exact hs
    · split at h
      · next hs => cases h; exact hs
      · split at h
        · next hs => cases h; exact hs
        · cases h

theorem Draft.eq_empty_of_isEmpty {d : Draft} (h : d.isEmpty = true) : d = .empty := by
  obtain ⟨spine, operand⟩ := d
  simp only [Draft.isEmpty, Bool.and_eq_true, List.isEmpty_iff, Option.isNone_iff_eq_none] at h
  obtain ⟨rfl, rfl⟩ := h
  rfl

namespace Builder

/-! ### Steps -/

/-- The successful steps of a builder at a lexeme, with their warnings. -/
inductive Takes (b : Builder) (l : Lexeme) : Builder → List BuildEvent → Prop
  | number (hk : l.kind = .number) (ho : b.current.operand = none) :
    Takes b l { b with current := { b.current with operand := some (.literal l.loc l.text) } } []
  | name (hk : l.kind = .ident) (ho : b.current.operand = none) :
    Takes b l { b with current := { b.current with operand := some (.var l.loc l.text) } } []
  | arithmetic {op : Operator} {e : Expr} (hk : l.isOperator op.symbol = true)
    (ho : b.current.operand = some e) :
    Takes b l { b with current := ⟨.binary l.loc (Draft.climb op b.current.spine e).2 op ::
      (Draft.climb op b.current.spine e).1, none⟩ } []
  | endStatement {e : Expr} (hk : l.isOperator ";" = true) (hg : b.groups = [])
    (ho : b.current.operand = some e) :
    Takes b l { b with statements := b.statements ++ [b.current.root], current := .empty } []
  | endNothing (hk : l.isOperator ";" = true) (hg : b.groups = []) (hc : b.current = .empty) :
    Takes b l b []
  | assign {loc : Location} {name : String} (hk : l.isOperator "=" = true)
    (hc : b.current = ⟨[], some (.var loc name)⟩) :
    Takes b l { b with current := ⟨[.assign l.loc name], none⟩ } []
  | dropAssign (hk : l.isOperator "=" = true) (hc : b.current.assign? l.loc = none) :
    Takes b l b [.droppedAssign l.loc b.current.root]
  | openGroup (hk : l.kind = .lparen) :
    Takes b l { b with current := .empty, groups := ⟨l.loc, b.current⟩ :: b.groups } []
  | closeGroup {g : OpenGroup} {gs : List OpenGroup} {e : Expr} (hk : l.kind = .rparen)
    (hg : b.groups = g :: gs) (ho : b.current.operand = some e) (hp : g.parent.operand = none) :
    Takes b l { b with
      current := { g.parent with operand := some (.group g.loc b.current.root) },
      groups := gs } []
  | startReturn (hk : l.isKeyword "return" = true) (hg : b.groups = []) :
    Takes b l { b with current := .startReturn l.loc }
      (if b.current.isEmpty then [] else [.discarded l.loc b.current.root])

theorem quiet_eq_ok {r : Except BuildError Builder} {b : Builder} {events : List BuildEvent} :
    quiet r = .ok (b, events) ↔ r = .ok b ∧ events = [] := by
  cases r with
  | error e => simp [quiet, Except.map]
  | ok b' =>
    simp only [quiet, Except.map, Except.ok.injEq, Prod.mk.injEq]
    exact and_congr_right fun _ => eq_comm

theorem operand_eq_ok {b b' : Builder} {l : Lexeme} {e : Expr} (h : b.operand l e = .ok b') :
    b.current.operand = none ∧ b' = { b with current := { b.current with operand := some e } } := by
  unfold operand Draft.attach? at h
  cases ho : b.current.operand with
  | some x => simp [ho] at h
  | none =>
    simp only [ho, Except.ok.injEq] at h
    exact ⟨rfl, h.symm⟩

theorem takes_of_finishStatement {b b' : Builder} {l : Lexeme} (hk : l.isOperator ";" = true)
    (hg : b.groups = []) (h : b.finishStatement l = .ok b') : Takes b l b' [] := by
  unfold finishStatement at h
  cases ho : b.current.operand with
  | some e =>
    simp only [ho, Except.ok.injEq] at h
    subst h
    exact .endStatement hk hg ho
  | none =>
    by_cases he : b.current.isEmpty = true
    · simp only [ho, he, ite_true, Except.ok.injEq] at h
      subst h
      exact .endNothing hk hg (Draft.eq_empty_of_isEmpty he)
    · simp [ho, he] at h

theorem takes_of_arithmetic {b b' : Builder} {l : Lexeme} (hk : l.kind = .operator)
    (h : b.arithmetic l = .ok b') : Takes b l b' [] := by
  unfold arithmetic Draft.operator? at h
  cases hs : Operator.ofSymbol? l.text with
  | none => simp [hs] at h
  | some op =>
    cases ho : b.current.operand with
    | none => simp [hs, ho] at h
    | some e =>
      simp only [hs, ho, Except.ok.injEq] at h
      subst h
      have hl : l.isOperator op.symbol = true :=
        Lexeme.isOperator_iff.mpr ⟨hk, Operator.ofSymbol?_eq_some hs⟩
      exact .arithmetic hl ho

theorem takes_of_operator {b b' : Builder} {l : Lexeme} {events : List BuildEvent}
    (hk : l.kind = .operator) (h : b.operator l = .ok (b', events)) : Takes b l b' events := by
  unfold operator at h
  by_cases hsemi : l.text = ";"
  · rw [if_pos hsemi] at h
    have hl : l.isOperator ";" = true := Lexeme.isOperator_iff.mpr ⟨hk, hsemi⟩
    cases hg : b.groups with
    | cons g gs => simp [hg] at h
    | nil =>
      simp only [hg, quiet_eq_ok] at h
      obtain ⟨hf, rfl⟩ := h
      exact takes_of_finishStatement hl hg hf
  · rw [if_neg hsemi] at h
    by_cases heq : l.text = "="
    · rw [if_pos heq] at h
      have hl : l.isOperator "=" = true := Lexeme.isOperator_iff.mpr ⟨hk, heq⟩
      cases ha : b.current.assign? l.loc with
      | none =>
        simp only [ha, Except.ok.injEq, Prod.mk.injEq] at h
        obtain ⟨rfl, rfl⟩ := h
        exact .dropAssign hl ha
      | some d =>
        simp only [ha, Except.ok.injEq, Prod.mk.injEq] at h
        obtain ⟨rfl, rfl⟩ := h
        unfold Draft.assign? at ha
        split at ha
        · next hc => cases ha; exact .assign hl hc
        · cases ha
    · rw [if_neg heq, quiet_eq_ok] at h
      obtain ⟨hf, rfl⟩ := h
      exact takes_of_arithmetic hk hf

theorem takes_of_closeGroup {b b' : Builder} {l : Lexeme} (hk : l.kind = .rparen)
    (h : b.closeGroup l = .ok b') : Takes b l b' [] := by
  unfold closeGroup Draft.attach? at h
  cases hg : b.groups with
  | nil => simp [hg] at h
  | cons g gs =>
    cases ho : b.current.operand with
    | none => simp [hg, ho, Draft.isComplete] at h
    | some e =>
      cases hp : g.parent.operand with
      | some x => simp [hg, ho, hp, Draft.isComplete] at h
      | none =>
        simp only [hg, ho, hp, Draft.isComplete, Option.isSome_some, ite_true,
          Except.ok.injEq] at h
        subst h
        exact .closeGroup hk hg ho hp

theorem takes_of_keyword {b b' : Builder} {l : Lexeme} {events : List BuildEvent}
    (hk : l.kind = .keyword) (h : b.keyword l = .ok (b', events)) : Takes b l b' events := by
  unfold keyword at h
  by_cases hret : l.text = "return"
  · rw [if_pos hret] at h
    split at h
    · cases h
    · next hg =>
      cases h
      exact .startReturn (Lexeme.isKeyword_iff.mpr ⟨hk, hret⟩) hg
  · rw [if_neg hret] at h
    split at h <;> cases h

theorem takes_of_step {b b' : Builder} {l : Lexeme} {events : List BuildEvent}
    (h : b.step l = .ok (b', events)) : Takes b l b' events := by
  unfold step at h
  split at h
  · next hk =>
    obtain ⟨hop, rfl⟩ := quiet_eq_ok.mp h
    obtain ⟨ho, rfl⟩ := operand_eq_ok hop
    exact .number hk ho
  · next hk =>
    obtain ⟨hop, rfl⟩ := quiet_eq_ok.mp h
    obtain ⟨ho, rfl⟩ := operand_eq_ok hop
    exact .name hk ho
  · next hk => exact takes_of_operator hk h
  · next hk =>
    cases h
    exact .openGroup hk
  · next hk =>
    obtain ⟨hc, rfl⟩ := quiet_eq_ok.mp h
    exact takes_of_closeGroup hk hc
  · next hk => exact takes_of_keyword hk h
  · cases h
  · cases h

theorem step_of_takes {b b' : Builder} {l : Lexeme} {events : List BuildEvent}
    (h : Takes b l b' events) : b.step l = .ok (b', events) := by
  cases h with
  | number hk ho => simp [step, hk, operand, Draft.attach?, ho, quiet, Except.map]
  | name hk ho => simp [step, hk, operand, Draft.attach?, ho, quiet, Except.map]
  | @arithmetic op e hk ho =>
    obtain ⟨hk, ht⟩ := Lexeme.isOperator_iff.mp hk
    simp [step, hk, operator, ht, Operator.symbol_ne_semicolon, Operator.symbol_ne_equals,
      arithmetic, Operator.ofSymbol?_symbol, Draft.operator?, ho, quiet, Except.map]
  | endStatement hk hg ho =>
    obtain ⟨hk, ht⟩ := Lexeme.isOperator_iff.mp hk
    simp [step, hk, operator, ht, hg, finishStatement, ho, quiet, Except.map]
  | endNothing hk hg hc =>
    obtain ⟨hk, ht⟩ := Lexeme.isOperator_iff.mp hk
    simp [step, hk, operator, ht, hg, finishStatement, hc, Draft.empty, Draft.isEmpty, quiet,
      Except.map]
  | assign hk hc =>
    obtain ⟨hk, ht⟩ := Lexeme.isOperator_iff.mp hk
    simp [step, hk, operator, ht, hc, Draft.assign?]
  | dropAssign hk hc =>
    obtain ⟨hk, ht⟩ := Lexeme.isOperator_iff.mp hk
    simp [step, hk, operator, ht, hc]
  | openGroup hk => simp [step, hk]
  | closeGroup hk hg ho hp =>
    simp [step, hk, closeGroup, hg, ho, hp, Draft.isComplete, Draft.attach?, quiet, Except.map]
  | startReturn hk hg =>
    obtain ⟨hk, ht⟩ := Lexeme.isKeyword_iff.mp hk
    simp [step, hk, keyword, ht, hg]

/-! ### Runs -/

theorem failure_of_takes {b b' : Builder} {l : Lexeme} {events : List BuildEvent}
    (h : Takes b l b' events) : b'.failure = b.failure := by
  cases h <;> rfl

theorem pushAll_cons_eq_ok {b b' : Builder} {l : Lexeme} {ls : List Lexeme}
    {events : List BuildEvent} :
    b.pushAll (l :: ls) = (events, .ok b') ↔
      b.failure = none ∧ ∃ b₁ warnings rest, Takes b l b₁ warnings ∧
        b₁.pushAll ls = (rest, .ok b') ∧
        events = warnings ++ [.consumed l b₁.current b₁.groups.length] ++ rest := by
  cases hf : b.failure with
  | some e => simp [pushAll, push, hf]
  | none =>
    cases hs : b.step l with
    | error e =>
      have hno : ∀ b₁ warnings, ¬ Takes b l b₁ warnings := by
        intro b₁ warnings ht
        rw [step_of_takes ht] at hs
        cases hs
      simp [pushAll, push, hf, hs, hno]
    | ok r =>
      obtain ⟨b₁, warnings⟩ := r
      have ht := takes_of_step hs
      simp only [pushAll, push, hf, hs, true_and]
      constructor
      · intro h
        cases hr : b₁.pushAll ls with
        | mk rest r =>
          simp only [hr, Prod.mk.injEq] at h
          obtain ⟨rfl, rfl⟩ := h
          exact ⟨b₁, warnings, rest, ht, hr, rfl⟩
      · rintro ⟨b₂, warnings', rest, ht', hr, rfl⟩
        -- both steps are the one that was taken
        have heq := (step_of_takes ht').symm.trans hs
        cases heq
        rw [hr]

theorem pushAll_keeps {P : Builder → Prop} {b b' : Builder} {ls : List Lexeme}
    {events : List BuildEvent}
    (hstep : ∀ l ∈ ls, ∀ b b' warnings, Takes b l b' warnings → P b → P b')
    (h : b.pushAll ls = (events, .ok b')) (hb : P b) : P b' := by
  induction ls generalizing b events with
  | nil =>
    simp only [pushAll, Prod.mk.injEq, Except.ok.injEq] at h
    exact h.2 ▸ hb
  | cons l ls ih =>
    obtain ⟨_, b₁, warnings, rest, ht, hrest, _⟩ := pushAll_cons_eq_ok.mp h
    have hl : P b₁ := hstep l (List.mem_cons_self ..) b b₁ warnings ht hb
    exact ih (fun m hm => hstep m (List.mem_cons_of_mem _ hm)) hrest hl

theorem finish_eq_ok {b : Builder} {p : Program} :
    b.finish.1 = .ok p ↔
      b.failure = none ∧ b.groups = [] ∧
        ((∃ e, b.current.operand = some e ∧ p = b.statements ++ [b.current.root]) ∨
          (b.current = .empty ∧ p = b.statements)) := by
  cases hf : b.failure with
  | some e => simp [finish, hf]
  | none =>
    cases hg : b.groups with
    | cons g gs => simp [finish, hf, hg]
    | nil =>
      cases ho : b.current.operand with
      | some e =>
        have hne : b.current ≠ .empty := by
          intro h
          rw [h] at ho
          cases ho
        simp only [finish, hf, hg, finishStatement, ho, hne, Except.ok.injEq, true_and, false_and,
          or_false, Option.some.injEq, exists_eq_left']
        exact eq_comm
      | none =>
        by_cases he : b.current.isEmpty = true
        · have hc := Draft.eq_empty_of_isEmpty he
          simp only [finish, hf, hg, finishStatement, ho, he, ite_true, Except.ok.injEq, true_and,
            reduceCtorEq, false_and, exists_false, false_or]
          exact ⟨fun h => ⟨hc, h.symm⟩, fun h => h.2.symm⟩
        · have hne : b.current ≠ .empty := by
            intro h
            rw [h] at he
            exact he rfl
          simp [finish, hf, hg, finishStatement, ho, he, hne]

end Builder

theorem build_eq_ok {ls : List Lexeme} {events : List BuildEvent} {p : Program} :
    build ls = (events, .ok p) ↔
      ∃ b, Builder.new.pushAll ls = (events, .ok b) ∧ b.finish.1 = .ok p := by
  unfold build
  cases hr : Builder.new.pushAll ls with
  | mk evs r =>
    cases r with
    | error e => simp [Except.bind]
    | ok b =>
      simp only [Except.bind, Prod.mk.injEq, Except.ok.injEq]
      constructor
      · rintro ⟨rfl, h⟩
        exact ⟨b, ⟨rfl, rfl⟩, h⟩
      · rintro ⟨b', ⟨rfl, rfl⟩, h⟩
        exact ⟨rfl, h⟩

end ArithCompiler
