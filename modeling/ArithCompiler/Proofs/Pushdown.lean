import ArithCompiler.Proofs.Refusals

/-!
# Building as a pushdown automaton

To tell whether building succeeds, and if not, where and how it fails, the trees do not
matter. An automaton (`Pushdown`) that keeps one of four phases for each level of open
parentheses gives the same verdict on all lists of lexemes (`build_outcome_iff_rejection`).
A builder is mapped to the automaton by the phases of its drafts (`Builder.phases`), and
every step of the one is a step of the other (`step_phases_of_takes`,
`step_phases_of_refuses`).
-/

namespace ArithCompiler

/-! ### The automaton -/

/-- What has been read on one level. -/
inductive Phase where
  | empty
  /-- A variable and nothing else. -/
  | name
  /-- Something that lacks an operand. -/
  | awaiting
  /-- All else that could end here. -/
  | complete
deriving DecidableEq, Repr

namespace Phase

/-- An operand is read. If it is the first of its level, the phase is `first`. -/
def operand (p first : Phase) : Except BuildErrorKind Phase :=
  match p with
  | .empty => .ok first
  | .awaiting => .ok .complete
  | .name | .complete => .error .unexpectedOperand

def operator : Phase → Except BuildErrorKind Phase
  | .name | .complete => .ok .awaiting
  | .empty | .awaiting => .error .noLeftOperand

def equals : Phase → Phase
  | .name => .awaiting
  | p => p

end Phase

/-- The phases of all open levels. -/
structure Pushdown where
  innermost : Phase
  /-- The levels around it, from the inside out. -/
  outer : List Phase
deriving DecidableEq, Repr

namespace Pushdown

def start : Pushdown := ⟨.empty, []⟩

def enter (s : Pushdown) (p : Phase) : Pushdown := { s with innermost := p }

/-- A statement ends, with a semicolon or with the input. -/
def endStatement (s : Pushdown) : Except BuildErrorKind Pushdown :=
  match s.outer, s.innermost with
  | _ :: _, _ => .error .structural
  | [], .awaiting => .error .incomplete
  | [], _ => .ok start

def operator (s : Pushdown) (text : String) : Except BuildErrorKind Pushdown :=
  if text = ";" then s.endStatement
  else if text = "=" then .ok (s.enter s.innermost.equals)
  else if text ∈ ["+", "-", "*", "/"] then s.innermost.operator.map s.enter
  else .error .unknownOperator

def close (s : Pushdown) : Except BuildErrorKind Pushdown :=
  match s.outer, s.innermost with
  | [], _ => .error .structural
  | _ :: _, .empty | _ :: _, .awaiting => .error .incomplete
  | parent :: outer, .name | parent :: outer, .complete =>
    (parent.operand .complete).map (⟨·, outer⟩)

def keyword (s : Pushdown) (text : String) : Except BuildErrorKind Pushdown :=
  if text = "return" then
    match s.outer with
    | [] => .ok ⟨.awaiting, []⟩
    | _ :: _ => .error .unsupported
  else if text = "if" then .error .unsupported
  else .error .structural

def step (s : Pushdown) (l : Lexeme) : Except BuildErrorKind Pushdown :=
  match l.kind with
  | .number => (s.innermost.operand .complete).map s.enter
  | .ident => (s.innermost.operand .name).map s.enter
  | .operator => s.operator l.text
  | .lparen => .ok ⟨.empty, s.innermost :: s.outer⟩
  | .rparen => s.close
  | .keyword => s.keyword l.text
  | .eof | .other _ => .error .structural

/-- How many lexemes are taken before the run fails, and the kind of the failure. If all
are taken, it fails at the end of the input. -/
def rejection (s : Pushdown) : List Lexeme → Option (Nat × BuildErrorKind)
  | [] =>
    match s.endStatement with
    | .ok _ => none
    | .error kind => some (0, kind)
  | l :: ls =>
    match s.step l with
    | .ok s' => (s'.rejection ls).map fun r => (r.1 + 1, r.2)
    | .error kind => some (0, kind)

end Pushdown

/-! ### Phases of drafts -/

namespace Draft

def phase : Draft → Phase
  | ⟨[], none⟩ => .empty
  | ⟨[], some (.var _ _)⟩ => .name
  | ⟨_ :: _, none⟩ => .awaiting
  | ⟨_, some _⟩ => .complete

theorem phase_of_operand_eq_some {d : Draft} {e : Expr} (h : d.operand = some e) :
    d.phase = .name ∨ d.phase = .complete := by
  obtain ⟨spine, operand⟩ := d
  cases h
  cases spine with
  | cons f spine => exact .inr rfl
  | nil =>
    cases e with
    | var => exact .inl rfl
    | _ => exact .inr rfl

theorem phase_of_operand_eq_none {d : Draft} (h : d.operand = none) :
    d = .empty ∧ d.phase = .empty ∨ d.phase = .awaiting := by
  obtain ⟨spine, operand⟩ := d
  cases h
  cases spine with
  | cons f spine => exact .inr rfl
  | nil => exact .inl ⟨rfl, rfl⟩

theorem phase_equals_of_assign? {d : Draft} {loc : Location} (h : d.assign? loc = none) :
    d.phase.equals = d.phase := by
  unfold phase
  split
  · rfl
  · cases h
  · rfl
  · rfl

theorem operand_phase {d : Draft} (h : d.operand = none) {e : Expr}
    (he : ∀ loc name, e ≠ .var loc name) :
    d.phase.operand .complete = .ok (Draft.phase { d with operand := some e }) := by
  obtain ⟨spine, operand⟩ := d
  cases h
  cases spine with
  | cons f spine => rfl
  | nil =>
    cases e with
    | var loc name => exact absurd rfl (he loc name)
    | _ => rfl

theorem operand_phase_var {d : Draft} (h : d.operand = none) (loc : Location) (name : String) :
    d.phase.operand .name = .ok (Draft.phase { d with operand := some (.var loc name) }) := by
  obtain ⟨spine, operand⟩ := d
  cases h
  cases spine <;> rfl

theorem operand_phase_eq_error {d : Draft} {e : Expr} (h : d.operand = some e) (first : Phase) :
    d.phase.operand first = .error .unexpectedOperand := by
  rcases phase_of_operand_eq_some h with hp | hp <;> rw [hp] <;> rfl

theorem operator_phase {d : Draft} {e : Expr} (h : d.operand = some e) :
    d.phase.operator = .ok .awaiting := by
  rcases phase_of_operand_eq_some h with hp | hp <;> rw [hp] <;> rfl

theorem operator_phase_eq_error {d : Draft} (h : d.operand = none) :
    d.phase.operator = .error .noLeftOperand := by
  rcases phase_of_operand_eq_none h with ⟨_, hp⟩ | hp <;> rw [hp] <;> rfl

end Draft

namespace Pushdown

theorem endStatement_of_complete {d : Draft} {e : Expr} (h : d.operand = some e) :
    endStatement ⟨d.phase, []⟩ = .ok start := by
  rcases Draft.phase_of_operand_eq_some h with hp | hp <;> rw [hp] <;> rfl

theorem endStatement_of_incomplete {d : Draft} (h : d.operand = none) (hd : d ≠ .empty) :
    endStatement ⟨d.phase, []⟩ = .error .incomplete := by
  rcases Draft.phase_of_operand_eq_none h with ⟨hempty, _⟩ | hp
  · exact absurd hempty hd
  · rw [hp]
    rfl

theorem close_of_complete {d : Draft} {e : Expr} (h : d.operand = some e) (parent : Phase)
    (outer : List Phase) :
    close ⟨d.phase, parent :: outer⟩ = (parent.operand .complete).map (⟨·, outer⟩) := by
  rcases Draft.phase_of_operand_eq_some h with hp | hp <;> rw [hp] <;> rfl

theorem close_of_incomplete {d : Draft} (h : d.operand = none) (parent : Phase)
    (outer : List Phase) : close ⟨d.phase, parent :: outer⟩ = .error .incomplete := by
  rcases Draft.phase_of_operand_eq_none h with ⟨_, hp⟩ | hp <;> rw [hp] <;> rfl

/-! ### Steps by lexeme -/

theorem step_of_isOperator (s : Pushdown) {l : Lexeme} {text : String}
    (h : l.isOperator text = true) : s.step l = s.operator text := by
  obtain ⟨hk, ht⟩ := Lexeme.isOperator_iff.mp h
  simp only [step, hk, ht]

theorem step_of_isKeyword (s : Pushdown) {l : Lexeme} {word : String}
    (h : l.isKeyword word = true) : s.step l = s.keyword word := by
  obtain ⟨hk, ht⟩ := Lexeme.isKeyword_iff.mp h
  simp only [step, hk, ht]

theorem operator_symbol (s : Pushdown) (op : Operator) :
    s.operator op.symbol = s.innermost.operator.map s.enter := by
  have hmem : op.symbol ∈ ["+", "-", "*", "/"] := by cases op <;> decide
  simp only [operator, Operator.symbol_ne_semicolon, Operator.symbol_ne_equals, hmem, ite_true,
    ite_false]

theorem operator_of_ofSymbol?_eq_none (s : Pushdown) {text : String} (hsemi : text ≠ ";")
    (heq : text ≠ "=") (h : Operator.ofSymbol? text = none) :
    s.operator text = .error .unknownOperator := by
  have hmem : text ∉ ["+", "-", "*", "/"] := by
    intro hmem
    simp only [List.mem_cons, List.not_mem_nil, or_false] at hmem
    rcases hmem with rfl | rfl | rfl | rfl <;> cases h
  simp only [operator, hsemi, heq, hmem, ite_false]

end Pushdown

/-! ### Steps of builders -/

namespace Builder

def phases (b : Builder) : Pushdown := ⟨b.current.phase, b.groups.map fun g => g.parent.phase⟩

theorem step_phases_of_takes {b b' : Builder} {l : Lexeme} {warnings : List BuildEvent}
    (h : Takes b l b' warnings) : b.phases.step l = .ok b'.phases := by
  cases h with
  | number hk ho =>
    have hphase := Draft.operand_phase ho (e := .literal l.loc l.text) (by simp)
    simp only [Pushdown.step, hk, phases, hphase]
    rfl
  | name hk ho =>
    have hphase := Draft.operand_phase_var ho l.loc l.text
    simp only [Pushdown.step, hk, phases, hphase]
    rfl
  | @arithmetic op e hk ho =>
    rw [Pushdown.step_of_isOperator _ hk, Pushdown.operator_symbol]
    simp only [phases, Draft.operator_phase ho]
    rfl
  | endStatement hk hg ho =>
    rw [Pushdown.step_of_isOperator _ hk]
    simp only [phases, hg]
    exact Pushdown.endStatement_of_complete ho
  | endNothing hk hg hc =>
    rw [Pushdown.step_of_isOperator _ hk]
    simp only [phases, hg, hc]
    rfl
  | assign hk hc =>
    rw [Pushdown.step_of_isOperator _ hk]
    simp only [phases, hc]
    rfl
  | dropAssign hk hc =>
    -- nothing to assign to, so the level holds no bare name
    have hequals := Draft.phase_equals_of_assign? hc
    have hstep : b.phases.step l = .ok (b.phases.enter b.current.phase.equals) :=
      Pushdown.step_of_isOperator _ hk
    rw [hstep, hequals]
    rfl
  | openGroup hk =>
    simp only [Pushdown.step, hk]
    rfl
  | @closeGroup g gs e hk hg ho hp =>
    -- the group is an operand of the level around it, and never a name
    have hparent := Draft.operand_phase hp (e := .group g.loc b.current.root) (by simp)
    simp only [Pushdown.step, hk, phases, hg, List.map_cons, Pushdown.close_of_complete ho, hparent]
    rfl
  | startReturn hk hg =>
    rw [Pushdown.step_of_isKeyword _ hk]
    simp only [phases, hg]
    rfl

theorem step_phases_of_refuses {b : Builder} {l : Lexeme} {e : BuildError} (h : Refuses b l e) :
    b.phases.step l = .error e.kind := by
  cases h with
  | operandAfter hk ho =>
    rcases hk with hk | hk
    all_goals
      simp only [Pushdown.step, hk, phases, Draft.operand_phase_eq_error ho]
      rfl
  | unclosedGroup hk hg =>
    rw [Pushdown.step_of_isOperator _ hk]
    simp only [phases, hg]
    rfl
  | incompleteStatement hk hg ho hc =>
    rw [Pushdown.step_of_isOperator _ hk]
    simp only [phases, hg]
    exact Pushdown.endStatement_of_incomplete ho hc
  | unknownOperator hk hsemi heq hs =>
    simp only [Pushdown.step, hk, Pushdown.operator_of_ofSymbol?_eq_none _ hsemi heq hs]
    rfl
  | noLeftOperand hk ho =>
    rw [Pushdown.step_of_isOperator _ hk, Pushdown.operator_symbol]
    simp only [phases, Draft.operator_phase_eq_error ho]
    rfl
  | unmatchedClose hk hg =>
    simp only [Pushdown.step, hk, phases, hg]
    rfl
  | incompleteGroup hk hg ho =>
    simp only [Pushdown.step, hk, phases, hg, List.map_cons, Pushdown.close_of_incomplete ho]
    rfl
  | groupAfter hk hg ho hp =>
    simp only [Pushdown.step, hk, phases, hg, List.map_cons, Pushdown.close_of_complete ho,
      Draft.operand_phase_eq_error hp]
    rfl
  | returnInGroup hk hg =>
    rw [Pushdown.step_of_isKeyword _ hk]
    simp only [phases, hg]
    rfl
  | conditional hk =>
    rw [Pushdown.step_of_isKeyword _ hk]
    rfl
  | unknownKeyword hk ht =>
    simp only [keywords, List.mem_cons, List.not_mem_nil, or_false, not_or] at ht
    simp only [Pushdown.step, hk, Pushdown.keyword, ht, ite_false]
    rfl
  | endAsLexeme hk =>
    simp only [Pushdown.step, hk]
    rfl
  | unknownLexeme hk =>
    simp only [Pushdown.step, hk]
    rfl

/-! ### The end of input -/

theorem endStatement_phases_of_ok {b : Builder} {p : Program} (h : b.finish.1 = .ok p) :
    b.phases.endStatement = .ok .start := by
  obtain ⟨_, hg, hend⟩ := finish_eq_ok.mp h
  simp only [phases, hg]
  rcases hend with ⟨e, ho, _⟩ | ⟨hc, _⟩
  · exact Pushdown.endStatement_of_complete ho
  · rw [hc]
    rfl

theorem endStatement_phases_of_error {b : Builder} {e : BuildError} (hf : b.failure = none)
    (h : b.finish.1 = .error e) : b.phases.endStatement = .error e.kind := by
  rcases finish_eq_error hf h with ⟨g, gs, hg, rfl⟩ | ⟨hg, ho, hc, rfl⟩
  · simp only [phases, hg]
    rfl
  · simp only [phases, hg]
    exact Pushdown.endStatement_of_incomplete ho hc

/-! ### Runs -/

/-- A run fails once it has taken `n` lexemes: at the next one, or at the end of the input
if there is none. -/
inductive FailsAfter : Builder → List Lexeme → Nat → BuildError → Prop
  | atEnd {b : Builder} {e : BuildError} (h : b.finish.1 = .error e) : FailsAfter b [] 0 e
  | here {b : Builder} {l : Lexeme} {ls : List Lexeme} {e : BuildError}
    (h : (b.push l).1 = .error e) : FailsAfter b (l :: ls) 0 e
  | later {b b' : Builder} {l : Lexeme} {ls : List Lexeme} {n : Nat} {e : BuildError}
    {events : List BuildEvent} (h : b.push l = (.ok events, b')) (hrest : FailsAfter b' ls n e) :
    FailsAfter b (l :: ls) (n + 1) e

theorem failsAfter_nil {b : Builder} {n : Nat} {e : BuildError} :
    b.FailsAfter [] n e ↔ n = 0 ∧ b.finish.1 = .error e := by
  constructor
  · rintro ⟨h⟩
    exact ⟨rfl, h⟩
  · rintro ⟨rfl, h⟩
    exact .atEnd h

theorem failsAfter_cons_of_error {b b' : Builder} {l : Lexeme} {e e' : BuildError}
    (hpush : b.push l = (.error e', b')) (ls : List Lexeme) (n : Nat) :
    b.FailsAfter (l :: ls) n e ↔ n = 0 ∧ e = e' := by
  constructor
  · intro h
    cases h with
    | here h =>
      rw [hpush] at h
      exact ⟨rfl, (Except.error.inj h).symm⟩
    | later h _ =>
      rw [hpush] at h
      cases h
  · rintro ⟨rfl, rfl⟩
    exact .here (by rw [hpush])

theorem failsAfter_cons_of_ok {b b' : Builder} {l : Lexeme} {events : List BuildEvent}
    (hpush : b.push l = (.ok events, b')) (ls : List Lexeme) (n : Nat) (e : BuildError) :
    b.FailsAfter (l :: ls) n e ↔ ∃ m, b'.FailsAfter ls m e ∧ m + 1 = n := by
  constructor
  · intro h
    cases h with
    | here h =>
      rw [hpush] at h
      cases h
    | @later _ _ _ _ m _ _ h hrest =>
      rw [hpush] at h
      cases h
      exact ⟨m, hrest, rfl⟩
  · rintro ⟨m, hrest, rfl⟩
    exact .later hpush hrest

theorem rejection_phases_eq_some_iff {b : Builder} (hf : b.failure = none) (ls : List Lexeme)
    (n : Nat) (kind : BuildErrorKind) :
    b.phases.rejection ls = some (n, kind) ↔ ∃ e, b.FailsAfter ls n e ∧ e.kind = kind := by
  induction ls generalizing b n with
  | nil =>
    simp only [failsAfter_nil, Pushdown.rejection]
    cases hfinish : b.finish.1 with
    | ok p => simp [endStatement_phases_of_ok hfinish]
    | error e =>
      simp only [endStatement_phases_of_error hf hfinish, Option.some.injEq, Prod.mk.injEq]
      constructor
      · rintro ⟨rfl, rfl⟩
        exact ⟨e, ⟨rfl, rfl⟩, rfl⟩
      · rintro ⟨e', ⟨rfl, he⟩, rfl⟩
        cases he
        exact ⟨rfl, rfl⟩
  | cons l ls ih =>
    rcases takes_or_refuses b l with ⟨b', warnings, ht⟩ | ⟨e, href⟩
    · have hstep := step_phases_of_takes ht
      have hrest := ih ((failure_of_takes ht).trans hf)
      simp only [Pushdown.rejection, hstep, Option.map_eq_some_iff, Prod.mk.injEq,
        failsAfter_cons_of_ok (push_of_takes hf ht)]
      constructor
      · rintro ⟨⟨m, k⟩, hm, rfl, rfl⟩
        obtain ⟨e, hfail, hkind⟩ := (hrest m).mp hm
        exact ⟨e, ⟨m, hfail, rfl⟩, hkind⟩
      · rintro ⟨e, ⟨m, hfail, rfl⟩, hkind⟩
        exact ⟨(m, kind), (hrest m).mpr ⟨e, hfail, hkind⟩, rfl, rfl⟩
    · have hstep := step_phases_of_refuses href
      simp only [Pushdown.rejection, hstep, Option.some.injEq, Prod.mk.injEq,
        failsAfter_cons_of_error (push_of_refuses hf href)]
      constructor
      · rintro ⟨rfl, rfl⟩
        exact ⟨e, ⟨rfl, rfl⟩, rfl⟩
      · rintro ⟨e', ⟨rfl, rfl⟩, rfl⟩
        exact ⟨rfl, rfl⟩

theorem exists_failsAfter_iff {b : Builder} {ls : List Lexeme} {e : BuildError} :
    (∃ n, b.FailsAfter ls n e) ↔ ((b.pushAll ls).2.bind fun b' => b'.finish.1) = .error e := by
  induction ls generalizing b with
  | nil => simp [failsAfter_nil, pushAll, Except.bind]
  | cons l ls ih =>
    cases hpush : b.push l with
    | mk answer b' =>
      cases answer with
      | error e' =>
        simp only [failsAfter_cons_of_error hpush, pushAll, hpush, Except.bind]
        simp [eq_comm]
      | ok events =>
        simp only [failsAfter_cons_of_ok hpush, pushAll, hpush, ← ih]
        constructor
        · rintro ⟨n, m, hfail, _⟩
          exact ⟨m, hfail⟩
        · rintro ⟨m, hfail⟩
          exact ⟨m + 1, m, hfail, rfl⟩

theorem Refuses.lexeme_eq {b : Builder} {l : Lexeme} {e : BuildError} (h : Refuses b l e) :
    e.lexeme = l := by
  cases h <;> rfl

theorem lexeme_of_failsAfter {b : Builder} {ls : List Lexeme} {n : Nat} {e : BuildError}
    (hf : b.failure = none) (h : b.FailsAfter ls n e) : e.lexeme = ls[n]?.getD .endOfInput := by
  induction ls generalizing b n with
  | nil =>
    obtain ⟨rfl, hfinish⟩ := failsAfter_nil.mp h
    rcases finish_eq_error hf hfinish with ⟨_, _, _, rfl⟩ | ⟨_, _, _, rfl⟩ <;> rfl
  | cons l ls ih =>
    rcases takes_or_refuses b l with ⟨b', warnings, ht⟩ | ⟨e', href⟩
    · obtain ⟨m, hfail, rfl⟩ := (failsAfter_cons_of_ok (push_of_takes hf ht) ls n e).mp h
      exact ih ((failure_of_takes ht).trans hf) hfail
    · obtain ⟨rfl, rfl⟩ := (failsAfter_cons_of_error (push_of_refuses hf href) ls n).mp h
      exact href.lexeme_eq

end Builder

/-- Building succeeds exactly if the automaton takes all lexemes and the end of the input.
It fails exactly where the automaton does, with an error of the same kind. -/
theorem build_outcome_iff_rejection (ls : List Lexeme) :
    ((∃ p, (build ls).2 = .ok p) ↔ Pushdown.start.rejection ls = none) ∧
    ∀ n kind,
      (∃ e, (build ls).2 = .error e ∧ Builder.new.FailsAfter ls n e ∧ e.kind = kind ∧
        e.lexeme = ls[n]?.getD .endOfInput) ↔
      Pushdown.start.rejection ls = some (n, kind) := by
  have hsome := fun n kind => Builder.rejection_phases_eq_some_iff (b := .new) rfl ls n kind
  have hstart : Builder.new.phases = .start := rfl
  rw [hstart] at hsome
  have herror : ∀ e, (build ls).2 = .error e ↔ ∃ n, Builder.new.FailsAfter ls n e :=
    fun e => Builder.exists_failsAfter_iff.symm
  constructor
  · constructor
    · rintro ⟨p, hp⟩
      apply Option.eq_none_iff_forall_ne_some.mpr
      rintro ⟨n, kind⟩ hr
      obtain ⟨e, hfail, _⟩ := (hsome n kind).mp hr
      have he := (herror e).mpr ⟨n, hfail⟩
      rw [hp] at he
      cases he
    · intro hnone
      cases hb : (build ls).2 with
      | ok p => exact ⟨p, rfl⟩
      | error e =>
        obtain ⟨n, hfail⟩ := (herror e).mp hb
        have hr := (hsome n e.kind).mpr ⟨e, hfail, rfl⟩
        rw [hnone] at hr
        cases hr
  · intro n kind
    rw [hsome]
    constructor
    · rintro ⟨e, _, hfail, hkind, _⟩
      exact ⟨e, hfail, hkind⟩
    · rintro ⟨e, hfail, hkind⟩
      exact ⟨e, (herror e).mpr ⟨n, hfail⟩, hfail, hkind, Builder.lexeme_of_failsAfter rfl hfail⟩

/-- A parenthesis after an operand is refused where it is closed. -/
example : Pushdown.start.rejection (scanned .start "1 (2)".toList) =
    some (3, .unexpectedOperand) := by
  decide +kernel

end ArithCompiler
