import ArithCompiler.Proofs.Reading
import ArithCompiler.Proofs.Refusals

/-!
# Nothing is lost without a warning

Two things that are read leave no trace in the program: an `=` that is dropped, and what
stands before a `return` in its statement. Both are reported. If they are deleted, the
lexemes that are left (`Builder.remainder`) give the same program and no warning
(`build_remainder`). The run over them is that over all lexemes, but for the parts of
statements that will be discarded: there it waits in front of the statement
(`Builder.spared`).
-/

namespace ArithCompiler

/-! ### What is deleted -/

/-- There is a `return` before the next semicolon. -/
def returnFollows (ls : List Lexeme) : Bool :=
  (ls.takeWhile fun l => !l.isOperator ";").any fun l => l.isKeyword "return"

theorem returnFollows_cons_semicolon {l : Lexeme} (h : l.isOperator ";" = true)
    (ls : List Lexeme) : returnFollows (l :: ls) = false := by
  simp [returnFollows, h]

theorem returnFollows_cons {l : Lexeme} (h : l.isOperator ";" = false) (ls : List Lexeme) :
    returnFollows (l :: ls) = (l.isKeyword "return" || returnFollows ls) := by
  simp [returnFollows, h]

def BuildEvent.isDroppedAssign : BuildEvent → Bool
  | .droppedAssign _ _ => true
  | .discarded _ _ | .consumed _ _ _ => false

namespace Builder

/-- The lexeme is an `=` that is reported as dropped. -/
def ignores (b : Builder) (l : Lexeme) : Bool :=
  match (b.push l).1 with
  | .ok events => events.any BuildEvent.isDroppedAssign
  | .error _ => false

/-- The lexeme is a `return`, and the statement has begun before it. -/
def discards (b : Builder) (l : Lexeme) : Bool := l.isKeyword "return" && !b.current.isEmpty

/-- The lexemes of a run, each with the builder that it is pushed to. -/
def visits (b : Builder) : List Lexeme → List (Builder × Lexeme)
  | [] => []
  | l :: ls => (b, l) :: (b.push l).2.visits ls

/-- The lexemes without every `=` that is dropped, and without all that stands before the
last `return` of a statement. -/
def remainder (b : Builder) : List Lexeme → List Lexeme
  | [] => []
  | l :: ls =>
    if b.ignores l || (!l.isOperator ";" && returnFollows ls) then (b.push l).2.remainder ls
    else l :: (b.push l).2.remainder ls

/-! ### Warnings of a step -/

theorem ignores_of_takes {b b' : Builder} {l : Lexeme} {warnings : List BuildEvent}
    (hf : b.failure = none) (h : Takes b l b' warnings) :
    b.ignores l = warnings.any BuildEvent.isDroppedAssign := by
  simp [ignores, push_of_takes hf h, BuildEvent.isDroppedAssign]

theorem isKeyword_of_isOperator {l : Lexeme} {text : String} (h : l.isOperator text = true)
    (word : String) : l.isKeyword word = false := by
  simp [Lexeme.isKeyword, (Lexeme.isOperator_iff.mp h).1]

/-- Only an `=` and a `return` are reported. -/
theorem Takes.warnings_eq {b b' : Builder} {l : Lexeme} {warnings : List BuildEvent}
    (h : Takes b l b' warnings) :
    (b' = b ∧ l.isKeyword "return" = false ∧
        warnings = [.droppedAssign l.loc b.current.root]) ∨
      (b.groups = [] ∧ b' = { b with current := .startReturn l.loc } ∧
        l.isKeyword "return" = true ∧
        warnings = if b.current.isEmpty then [] else [.discarded l.loc b.current.root]) ∨
      (l.isKeyword "return" = false ∧ warnings = []) := by
  cases h with
  | dropAssign hk => exact .inl ⟨rfl, isKeyword_of_isOperator hk _, rfl⟩
  | startReturn hk hg => exact .inr (.inl ⟨hg, rfl, hk, rfl⟩)
  | number hk => exact .inr (.inr ⟨by simp [Lexeme.isKeyword, hk], rfl⟩)
  | name hk => exact .inr (.inr ⟨by simp [Lexeme.isKeyword, hk], rfl⟩)
  | openGroup hk => exact .inr (.inr ⟨by simp [Lexeme.isKeyword, hk], rfl⟩)
  | closeGroup hk => exact .inr (.inr ⟨by simp [Lexeme.isKeyword, hk], rfl⟩)
  | arithmetic hk => exact .inr (.inr ⟨isKeyword_of_isOperator hk _, rfl⟩)
  | endStatement hk => exact .inr (.inr ⟨isKeyword_of_isOperator hk _, rfl⟩)
  | endNothing hk => exact .inr (.inr ⟨isKeyword_of_isOperator hk _, rfl⟩)
  | assign hk => exact .inr (.inr ⟨isKeyword_of_isOperator hk _, rfl⟩)

theorem countP_warnings {b b' : Builder} {l : Lexeme} {warnings : List BuildEvent}
    (hf : b.failure = none) (h : Takes b l b' warnings) :
    warnings.countP BuildEvent.isWarning =
      (if b.ignores l then 1 else 0) + (if b.discards l then 1 else 0) := by
  rw [ignores_of_takes hf h, discards]
  rcases h.warnings_eq with ⟨_, hk, rfl⟩ | ⟨_, _, hk, rfl⟩ | ⟨hk, rfl⟩
  · simp [hk, BuildEvent.isDroppedAssign, BuildEvent.isWarning]
  · cases he : b.current.isEmpty with
    | true => simp
    | false => simp [hk, BuildEvent.isDroppedAssign, BuildEvent.isWarning]
  · simp [hk]

theorem countP_isWarning {b b' : Builder} {ls : List Lexeme} {events : List BuildEvent}
    (hf : b.failure = none) (h : b.pushAll ls = (events, .ok b')) :
    events.countP BuildEvent.isWarning =
      (b.visits ls).countP (fun v => v.1.ignores v.2) +
        (b.visits ls).countP (fun v => v.1.discards v.2) := by
  induction ls generalizing b events with
  | nil =>
    cases h
    rfl
  | cons l ls ih =>
    obtain ⟨_, b₁, warnings, rest, ht, hrest, rfl⟩ := pushAll_cons_eq_ok.mp h
    have hstep := countP_warnings hf ht
    have hrun := ih ((failure_of_takes ht).trans hf) hrest
    have hconsumed : [BuildEvent.consumed l b₁.current b₁.groups.length].countP
        BuildEvent.isWarning = 0 := rfl
    simp only [visits, push_of_takes hf ht, List.countP_append, List.countP_cons, hconsumed]
    omega

/-! ### The run over the remainder -/

/-- The builder in the run over the remainder, when `ls` are still to come: nothing is read
of a statement that will be discarded. -/
def spared (b : Builder) (ls : List Lexeme) : Builder :=
  if returnFollows ls then { b with current := .empty, groups := [] } else b

theorem spared_of_returnFollows {ls : List Lexeme} (h : returnFollows ls = true) (b : Builder) :
    b.spared ls = { b with current := .empty, groups := [] } := by
  rw [spared, if_pos h]

theorem spared_of_not_returnFollows {ls : List Lexeme} (h : returnFollows ls = false)
    (b : Builder) : b.spared ls = b := by
  rw [spared, if_neg (by simp [h])]

theorem spared_of_empty {b : Builder} (hc : b.current = .empty) (hg : b.groups = [])
    (ls : List Lexeme) : b.spared ls = b := by
  cases hr : returnFollows ls with
  | false => exact spared_of_not_returnFollows hr b
  | true =>
    rw [spared_of_returnFollows hr, ← hc, ← hg]

theorem Takes.semicolon {b b' : Builder} {l : Lexeme} {warnings : List BuildEvent}
    (h : Takes b l b' warnings) (hl : l.isOperator ";" = true) :
    b'.current = .empty ∧ b'.groups = [] ∧ warnings = [] := by
  obtain ⟨hkind, htext⟩ := Lexeme.isOperator_iff.mp hl
  cases h with
  | endStatement _ hg _ => exact ⟨rfl, hg, rfl⟩
  | endNothing _ hg hc => exact ⟨hc, hg, rfl⟩
  | @arithmetic op _ hk _ =>
    have hsymbol := (Lexeme.isOperator_iff.mp hk).2
    exact absurd (hsymbol.symm.trans htext) op.symbol_ne_semicolon
  | assign hk _ | dropAssign hk _ =>
    have hequals := (Lexeme.isOperator_iff.mp hk).2
    rw [htext] at hequals
    exact absurd hequals (by decide)
  | startReturn hk _ =>
    have hkeyword := (Lexeme.isKeyword_iff.mp hk).1
    rw [hkind] at hkeyword
    cases hkeyword
  | number hk _ | name hk _ | openGroup hk | closeGroup hk _ _ _ =>
    rw [hkind] at hk
    cases hk

theorem Takes.statements_eq {b b' : Builder} {l : Lexeme} {warnings : List BuildEvent}
    (h : Takes b l b' warnings) (hl : l.isOperator ";" = false) :
    b'.statements = b.statements := by
  cases h with
  | endStatement hk => simp [hk] at hl
  | _ => rfl

theorem spared_of_deleted {b b' : Builder} {l : Lexeme} {warnings : List BuildEvent}
    {ls : List Lexeme} (hf : b.failure = none) (h : Takes b l b' warnings)
    (hdel : (b.ignores l || (!l.isOperator ";" && returnFollows ls)) = true) :
    b.spared (l :: ls) = b'.spared ls := by
  rw [ignores_of_takes hf h] at hdel
  cases hsemi : l.isOperator ";" with
  | true =>
    obtain ⟨_, _, rfl⟩ := h.semicolon hsemi
    simp [hsemi] at hdel
  | false =>
    have hcons := returnFollows_cons hsemi ls
    cases hr : returnFollows ls with
    | true =>
      -- neither run is inside of the statement, and no statement has ended
      rw [hr, Bool.or_true] at hcons
      rw [spared_of_returnFollows hcons, spared_of_returnFollows hr, h.statements_eq hsemi,
        failure_of_takes h]
    | false =>
      -- only an `=` that is dropped is deleted here, and it leaves the builder as it was
      rcases h.warnings_eq with ⟨rfl, hk, _⟩ | ⟨_, _, _, rfl⟩ | ⟨_, rfl⟩
      · rw [hk, hr] at hcons
        rw [spared_of_not_returnFollows hcons, spared_of_not_returnFollows hr]
      · cases he : b.current.isEmpty <;> simp [hr, he, BuildEvent.isDroppedAssign] at hdel
      · simp [hr] at hdel

theorem takes_spared_of_left {b b' : Builder} {l : Lexeme} {warnings : List BuildEvent}
    {ls : List Lexeme} (hf : b.failure = none) (h : Takes b l b' warnings)
    (hleft : (b.ignores l || (!l.isOperator ";" && returnFollows ls)) = false) :
    Takes (b.spared (l :: ls)) l (b'.spared ls) [] := by
  rw [ignores_of_takes hf h] at hleft
  cases hsemi : l.isOperator ";" with
  | true =>
    -- both runs are between two statements afterwards
    obtain ⟨hc, hg, rfl⟩ := h.semicolon hsemi
    rw [spared_of_not_returnFollows (returnFollows_cons_semicolon hsemi ls),
      spared_of_empty hc hg]
    exact h
  | false =>
    have hcons := returnFollows_cons hsemi ls
    simp only [hsemi, Bool.not_false, Bool.true_and, Bool.or_eq_false_iff] at hleft
    obtain ⟨hdropped, hr⟩ := hleft
    rcases h.warnings_eq with ⟨_, _, rfl⟩ | ⟨hg, rfl, hk, _⟩ | ⟨hk, rfl⟩
    · simp [BuildEvent.isDroppedAssign] at hdropped
    · -- the last `return` of the statement finds nothing before it
      have ht := Takes.startReturn (b := { b with current := .empty, groups := [] }) hk rfl
      rw [hk, Bool.true_or] at hcons
      rw [spared_of_returnFollows hcons, spared_of_not_returnFollows hr, hg]
      exact ht
    · rw [hk, hr] at hcons
      rw [spared_of_not_returnFollows hcons, spared_of_not_returnFollows hr]
      exact h

theorem reads_remainder {b b' : Builder} {ls : List Lexeme} {events : List BuildEvent}
    (hf : b.failure = none) (h : b.pushAll ls = (events, .ok b')) :
    Reads (b.spared ls) (b.remainder ls) b' := by
  induction ls generalizing b events with
  | nil =>
    cases h
    exact .nil b'
  | cons l ls ih =>
    obtain ⟨_, b₁, warnings, rest, ht, hrest, _⟩ := pushAll_cons_eq_ok.mp h
    have hrun := ih ((failure_of_takes ht).trans hf) hrest
    simp only [remainder, push_of_takes hf ht]
    split
    · next hdel =>
      rw [spared_of_deleted hf ht hdel]
      exact hrun
    · next hleft => exact .cons (takes_spared_of_left hf ht (by simpa using hleft)) hrun

end Builder

/-- The remainder of lexemes that can be built gives the same program without a warning,
and each warning is one about an `=` that is dropped or about a `return` that does not
begin its statement. -/
theorem build_remainder {ls : List Lexeme} {events : List BuildEvent} {p : Program}
    (h : build ls = (events, .ok p)) :
    (∃ quiet, build (Builder.new.remainder ls) = (quiet, .ok p) ∧
      ∀ e ∈ quiet, e.isWarning = false) ∧
    events.countP BuildEvent.isWarning =
      (Builder.new.visits ls).countP (fun v => v.1.ignores v.2) +
        (Builder.new.visits ls).countP (fun v => v.1.discards v.2) := by
  obtain ⟨b, hrun, hfinish⟩ := build_eq_ok.mp h
  have hreads := Builder.reads_remainder rfl hrun
  rw [Builder.spared_of_empty rfl rfl] at hreads
  obtain ⟨quiet, hquiet, hnone⟩ := (Builder.reads_iff rfl).mp hreads
  exact ⟨⟨quiet, build_eq_ok.mpr ⟨b, hquiet, hfinish⟩, hnone⟩,
    Builder.countP_isWarning rfl hrun⟩

/-- The lexemes of `a = 1; return 2`, at the places that they have in the text below. -/
def spareLexemes : List Lexeme :=
  [⟨.ident, "a", ⟨1, 1⟩⟩, ⟨.operator, "=", ⟨1, 3⟩⟩, ⟨.number, "1", ⟨1, 7⟩⟩,
    ⟨.operator, ";", ⟨1, 8⟩⟩, ⟨.keyword, "return", ⟨1, 21⟩⟩, ⟨.number, "2", ⟨1, 30⟩⟩]

/-- The lexemes of `a = = 1; b return c return = 2`, with an `=` and a `return` too many in
each way. -/
def wastefulLexemes : List Lexeme :=
  [⟨.ident, "a", ⟨1, 1⟩⟩, ⟨.operator, "=", ⟨1, 3⟩⟩, ⟨.operator, "=", ⟨1, 5⟩⟩,
    ⟨.number, "1", ⟨1, 7⟩⟩, ⟨.operator, ";", ⟨1, 8⟩⟩, ⟨.ident, "b", ⟨1, 10⟩⟩,
    ⟨.keyword, "return", ⟨1, 12⟩⟩, ⟨.ident, "c", ⟨1, 19⟩⟩, ⟨.keyword, "return", ⟨1, 21⟩⟩,
    ⟨.operator, "=", ⟨1, 28⟩⟩, ⟨.number, "2", ⟨1, 30⟩⟩]

def spareProgram : Program :=
  [.assign ⟨1, 3⟩ "a" (.literal ⟨1, 7⟩ "1"), .ret ⟨1, 21⟩ (.literal ⟨1, 30⟩ "2")]

theorem build_remainder_wasteful :
    (build wastefulLexemes).2 = .ok spareProgram ∧
      (∃ quiet, build spareLexemes = (quiet, .ok spareProgram) ∧
        ∀ e ∈ quiet, e.isWarning = false) ∧
      (build wastefulLexemes).1.countP BuildEvent.isWarning = 2 + 2 := by
  have hbuild : build wastefulLexemes = ((build wastefulLexemes).1, .ok spareProgram) := rfl
  have hremainder : Builder.new.remainder wastefulLexemes = spareLexemes := by decide +kernel
  have hignored : (Builder.new.visits wastefulLexemes).countP (fun v => v.1.ignores v.2) = 2 := by
    decide +kernel
  have hdiscarding : (Builder.new.visits wastefulLexemes).countP (fun v => v.1.discards v.2) = 2 :=
    by decide +kernel
  have h := build_remainder hbuild
  rw [hremainder, hignored, hdiscarding] at h
  exact ⟨rfl, h⟩

end ArithCompiler
