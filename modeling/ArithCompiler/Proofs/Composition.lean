import ArithCompiler.Proofs.Calls
import ArithCompiler.Proofs.Grammar
import ArithCompiler.Proofs.Refusals

/-!
# Statements compose

A builder at the end of a statement differs from a new one only in the statements that
it has, and it does with them what a new one does without (`answer_behind`). Hence the
program of two lists of lexemes with a semicolon between them is that of the one and
then that of the other, and finishing is as good as a semicolon (`build_semicolon`).
A builder that has failed stays as it is (`foldl_answer_of_failure`).
-/

namespace ArithCompiler

namespace Builder

/-! ### Statements in front -/

/-- The builder with other statements in front of its own. -/
def behind (p : Program) (b : Builder) : Builder := { b with statements := p ++ b.statements }

theorem Takes.behind {b b' : Builder} {l : Lexeme} {warnings : List BuildEvent}
    (h : Takes b l b' warnings) (p : Program) :
    Takes (b.behind p) l (b'.behind p) warnings := by
  cases h with
  | number hk ho => exact .number hk ho
  | name hk ho => exact .name hk ho
  | arithmetic hk ho => exact .arithmetic hk ho
  | endStatement hk hg ho =>
    have h := Takes.endStatement (b := b.behind p) hk hg ho
    simp only [Builder.behind, List.append_assoc] at h
    exact h
  | endNothing hk hg hc => exact .endNothing hk hg hc
  | assign hk hc => exact .assign hk hc
  | dropAssign hk hc => exact .dropAssign hk hc
  | openGroup hk => exact .openGroup hk
  | closeGroup hk hg ho hp => exact .closeGroup hk hg ho hp
  | startReturn hk hg => exact .startReturn hk hg

theorem Refuses.behind {b : Builder} {l : Lexeme} {e : BuildError} (h : Refuses b l e)
    (p : Program) : Refuses (b.behind p) l e := by
  cases h <;> constructor <;> assumption

theorem push_behind (b : Builder) (p : Program) (l : Lexeme) :
    (b.behind p).push l = ((b.push l).1, (b.push l).2.behind p) := by
  cases hf : b.failure with
  | some e => simp only [push, behind, hf]
  | none =>
    have hf' : (b.behind p).failure = none := hf
    rcases takes_or_refuses b l with ⟨b', warnings, ht⟩ | ⟨e, href⟩
    · rw [push_of_takes hf ht, push_of_takes hf' (ht.behind p)]
      rfl
    · rw [push_of_refuses hf href, push_of_refuses hf' (href.behind p)]
      rfl

theorem finish_behind (b : Builder) (p : Program) :
    (b.behind p).finish = (b.finish.1.map (p ++ ·), b.finish.2.behind p) := by
  cases hf : b.failure with
  | some e => simp only [finish, behind, hf, Except.map]
  | none =>
    cases hg : b.groups with
    | cons g gs => simp only [finish, behind, hf, hg, Except.map]
    | nil =>
      cases ho : b.current.operand with
      | some e => simp [finish, behind, hf, hg, finishStatement, ho, Except.map]
      | none =>
        by_cases he : b.current.isEmpty = true
        · simp [finish, behind, hf, hg, finishStatement, ho, he, Except.map]
        · simp [finish, behind, hf, hg, finishStatement, ho, he, Except.map]

theorem answer_behind (b : Builder) (p : Program) (c : Call) :
    (b.behind p).answer c = (b.answer c).behind p := by
  cases c with
  | push l => simp only [answer, push_behind]
  | finish => simp only [answer, finish_behind]

theorem foldl_answer_behind (b : Builder) (p : Program) (calls : List Call) :
    calls.foldl answer (b.behind p) = (calls.foldl answer b).behind p := by
  induction calls generalizing b with
  | nil => rfl
  | cons c calls ih => rw [List.foldl_cons, List.foldl_cons, answer_behind, ih]

/-! ### Failed builders -/

/-- The error that a call is answered with, if it fails. -/
def refusal? (b : Builder) : Call → Option BuildError
  | .push l =>
    match (b.push l).1 with
    | .error e => some e
    | .ok _ => none
  | .finish =>
    match b.finish.1 with
    | .error e => some e
    | .ok _ => none

theorem foldl_answer_of_failure {b : Builder} {e : BuildError} (h : b.failure = some e)
    (calls : List Call) : calls.foldl answer b = b := by
  induction calls with
  | nil => rfl
  | cons c calls ih =>
    have hc : b.answer c = b := by cases c <;> simp only [answer, push, finish, h]
    rw [List.foldl_cons, hc, ih]

theorem refusal?_of_failure {b : Builder} {e : BuildError} (h : b.failure = some e) (c : Call) :
    b.refusal? c = some e := by
  cases c <;> simp only [refusal?, push, finish, h]

theorem failure_answer_of_refusal? {b : Builder} {c : Call} {e : BuildError}
    (h : b.refusal? c = some e) : (b.answer c).failure = some e := by
  cases hf : b.failure with
  | some e' =>
    have hc := foldl_answer_of_failure hf [c]
    rw [refusal?_of_failure hf] at h
    cases h
    exact (congrArg failure hc).trans hf
  | none =>
    cases c with
    | push l =>
      rcases takes_or_refuses b l with ⟨b', warnings, ht⟩ | ⟨e', href⟩
      · simp [refusal?, push_of_takes hf ht] at h
      · simp only [refusal?, push_of_refuses hf href, Option.some.injEq] at h
        simp only [answer, push_of_refuses hf href, h]
    | finish =>
      cases hg : b.groups with
      | cons g gs =>
        simp only [refusal?, finish, hf, hg, Option.some.injEq] at h
        simp only [answer, finish, hf, hg, h]
      | nil =>
        cases hs : b.finishStatement .endOfInput with
        | ok b' => simp [refusal?, finish, hf, hg, hs] at h
        | error e' =>
          simp only [refusal?, finish, hf, hg, hs, Option.some.injEq] at h
          simp only [answer, finish, hf, hg, hs, h]

theorem refusal?_foldl_answer {b : Builder} {c : Call} {e : BuildError}
    (h : b.refusal? c = some e) (later : List Call) (c' : Call) :
    ((c :: later).foldl answer b).refusal? c' = some e := by
  have hf := failure_answer_of_refusal? h
  rw [List.foldl_cons, foldl_answer_of_failure hf]
  exact refusal?_of_failure hf c'

/-! ### Runs as calls -/

theorem after_append (calls later : List Call) :
    after (calls ++ later) = later.foldl answer (after calls) :=
  List.foldl_append ..

theorem pushAll_bind_finish (b : Builder) (ls : List Lexeme) :
    ((b.pushAll ls).2.bind fun b' => b'.finish.1) =
      ((ls.map Call.push).foldl answer b).finish.1 := by
  induction ls generalizing b with
  | nil => rfl
  | cons l ls ih =>
    cases hpush : b.push l with
    | mk r b' =>
      have hanswer : b.answer (.push l) = b' := by simp only [answer, hpush]
      rw [List.map_cons, List.foldl_cons, hanswer]
      cases r with
      | ok events =>
        simp only [pushAll, hpush]
        exact ih b'
      | error e =>
        -- the calls after the first error leave the builder as it is
        have hf : b'.failure = some e := by
          rw [← hanswer]
          exact failure_answer_of_refusal? (by simp only [refusal?, hpush])
        rw [foldl_answer_of_failure hf]
        simp only [pushAll, hpush, Except.bind, finish, hf]

theorem build_eq_after (ls : List Lexeme) : (build ls).2 = (after (ls.map .push)).finish.1 :=
  pushAll_bind_finish new ls

/-! ### Ends of statements -/

theorem behind_new (p : Program) : new.behind p = ⟨p, .empty, [], none⟩ := by
  simp [behind, new]

theorem eq_behind_new {b : Builder} (hf : b.failure = none) (hg : b.groups = [])
    (hc : b.current = .empty) : b = new.behind b.statements := by
  rw [behind_new]
  obtain ⟨statements, current, groups, failure⟩ := b
  cases hf
  cases hg
  cases hc
  rfl

theorem answer_finish_of_ok {b : Builder} {p : Program} (h : b.finish.1 = .ok p) :
    b.answer .finish = new.behind p := by
  obtain ⟨hf, hg, hend⟩ := finish_eq_ok.mp h
  rcases hend with ⟨e, ho, rfl⟩ | ⟨hc, rfl⟩
  · simp only [answer, finish, hf, hg, finishStatement, ho, behind_new]
  · have he : b.current.isEmpty = true := by rw [hc]; rfl
    have ho : b.current.operand = none := by rw [hc]; rfl
    simp only [answer, finish, hf, hg, finishStatement, ho, he, ite_true]
    exact eq_behind_new hf hg hc

theorem answer_semicolon_of_ok {b : Builder} {p : Program} (h : b.finish.1 = .ok p)
    (semicolon : Grammar.Semicolon) : b.answer (.push semicolon.val) = new.behind p := by
  obtain ⟨hf, hg, hend⟩ := finish_eq_ok.mp h
  rcases hend with ⟨e, ho, rfl⟩ | ⟨hc, rfl⟩
  · have ht := Takes.endStatement semicolon.property hg ho
    simp only [answer, push_of_takes hf ht, behind_new, hf, hg]
  · have ht := Takes.endNothing semicolon.property hg hc
    simp only [answer, push_of_takes hf ht]
    exact eq_behind_new hf hg hc

theorem exists_refusal?_semicolon {b : Builder} {e : BuildError} (h : b.finish.1 = .error e)
    (semicolon : Grammar.Semicolon) :
    ∃ e', b.refusal? (.push semicolon.val) = some e' ∧ e'.kind = e.kind := by
  cases hf : b.failure with
  | some e' =>
    have he : e' = e := by simpa only [finish, hf, Except.error.injEq] using h
    exact ⟨e', refusal?_of_failure hf _, by rw [he]⟩
  | none =>
    have hrefused : ∀ {e'}, Refuses b semicolon.val e' →
        b.refusal? (.push semicolon.val) = some e' := by
      intro e' href
      simp only [refusal?, push_of_refuses hf href]
    rcases finish_eq_error hf h with ⟨g, gs, hg, rfl⟩ | ⟨hg, ho, hc, rfl⟩
    · exact ⟨_, hrefused (.unclosedGroup semicolon.property hg), rfl⟩
    · exact ⟨_, hrefused (.incompleteStatement semicolon.property hg ho hc), rfl⟩

theorem finish_foldl_behind (p : Program) (ls : List Lexeme) :
    ((ls.map Call.push).foldl answer (new.behind p)).finish.1 = (build ls).2.map (p ++ ·) := by
  rw [foldl_answer_behind, finish_behind, build_eq_after]
  rfl

end Builder

open Builder

/-- A semicolon joins two programs. If the first list of lexemes has none, the error is of
the same kind; if the second has none, it is the same. A builder that was finished goes on
as after a semicolon, and one that has failed gives its error as the answer to all that
comes later. -/
theorem build_semicolon (s t : List Lexeme) (semicolon : Grammar.Semicolon) :
    (∀ p, (build s).2 = .ok p → ∀ q, (build t).2 = .ok q →
      (build (s ++ semicolon.val :: t)).2 = .ok (p ++ q)) ∧
    (∀ p, (build s).2 = .ok p → ∀ e, (build t).2 = .error e →
      (build (s ++ semicolon.val :: t)).2 = .error e) ∧
    (∀ e, (build s).2 = .error e →
      ∃ e', (build (s ++ semicolon.val :: t)).2 = .error e' ∧ e'.kind = e.kind) ∧
    (∀ p, (after (s.map .push)).finish.1 = .ok p →
      (after (s.map .push ++ .finish :: t.map .push)).finish.1 =
        (build (s ++ semicolon.val :: t)).2) ∧
    ∀ calls c e, (after calls).refusal? c = some e →
      ∀ later c', (after (calls ++ c :: later)).refusal? c' = some e := by
  have hjoined : (build (s ++ semicolon.val :: t)).2 =
      ((t.map Call.push).foldl answer
        ((after (s.map .push)).answer (.push semicolon.val))).finish.1 := by
    rw [build_eq_after, List.map_append, after_append]
    rfl
  have hok : ∀ p, (after (s.map .push)).finish.1 = .ok p →
      (build (s ++ semicolon.val :: t)).2 = (build t).2.map (p ++ ·) := by
    intro p hp
    rw [hjoined, answer_semicolon_of_ok hp, finish_foldl_behind]
  rw [build_eq_after s]
  refine ⟨?_, ?_, ?_, ?_, ?_⟩
  · intro p hp q hq
    rw [hok p hp, hq]
    rfl
  · intro p hp e he
    rw [hok p hp, he]
    rfl
  · intro e he
    obtain ⟨e', hrefused, hkind⟩ := exists_refusal?_semicolon he semicolon
    have hf := failure_answer_of_refusal? hrefused
    refine ⟨e', ?_, hkind⟩
    rw [hjoined, foldl_answer_of_failure hf]
    simp only [finish, hf]
  · intro p hp
    rw [hok p hp, after_append, List.foldl_cons, answer_finish_of_ok hp, finish_foldl_behind]
  · intro calls c e he later c'
    rw [after_append]
    exact refusal?_foldl_answer he later c'

/-- The lexemes of `a = 1`. -/
def assigningOne : List Lexeme :=
  [⟨.ident, "a", ⟨1, 1⟩⟩, ⟨.operator, "=", ⟨1, 3⟩⟩, ⟨.number, "1", ⟨1, 5⟩⟩]

/-- The lexemes of `(2`. -/
def openTwo : List Lexeme := [⟨.lparen, "(", ⟨1, 1⟩⟩, ⟨.number, "2", ⟨1, 2⟩⟩]

def semicolonHere : Grammar.Semicolon := ⟨⟨.operator, ";", ⟨1, 6⟩⟩, by decide⟩

def assignedOne : Expr := .assign ⟨1, 3⟩ "a" (.literal ⟨1, 5⟩ "1")

theorem build_semicolon_assigning :
    (build (assigningOne ++ semicolonHere.val :: assigningOne)).2 =
      .ok [assignedOne, assignedOne] ∧
    (build (assigningOne ++ semicolonHere.val :: openTwo)).2 =
      .error ⟨.unclosedGroup ⟨1, 1⟩, .endOfInput⟩ ∧
    (∃ e, (build (openTwo ++ semicolonHere.val :: assigningOne)).2 = .error e ∧
      e.kind = .structural) ∧
    (after (assigningOne.map .push ++ .finish :: assigningOne.map .push)).finish.1 =
      .ok [assignedOne, assignedOne] ∧
    (after ((openTwo.map .push) ++ [.finish, .push semicolonHere.val])).refusal? .finish =
      some ⟨.unclosedGroup ⟨1, 1⟩, .endOfInput⟩ := by
  have hone : (build assigningOne).2 = .ok [assignedOne] := rfl
  have htwo : (build openTwo).2 = .error ⟨.unclosedGroup ⟨1, 1⟩, .endOfInput⟩ := rfl
  have hfinish : (after (assigningOne.map .push)).finish.1 = .ok [assignedOne] := rfl
  have hrefused : (after (openTwo.map .push)).refusal? .finish =
      some ⟨.unclosedGroup ⟨1, 1⟩, .endOfInput⟩ := rfl
  obtain ⟨hjoined, _, _, hgoes, _⟩ := build_semicolon assigningOne assigningOne semicolonHere
  obtain ⟨_, hsame, _, _, _⟩ := build_semicolon assigningOne openTwo semicolonHere
  obtain ⟨_, _, hkind, _, hstays⟩ := build_semicolon openTwo assigningOne semicolonHere
  have hboth := hjoined _ hone _ hone
  exact ⟨hboth, hsame _ hone _ htwo, hkind _ htwo, (hgoes _ hfinish).trans hboth,
    hstays _ _ _ hrefused [.push semicolonHere.val] .finish⟩

end ArithCompiler
