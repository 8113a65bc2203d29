import ArithCompiler.Proofs.Composition
import ArithCompiler.Proofs.RoundTrip
import Mathlib.Control.Monad.Basic

/-!
# Building without places

The place of a lexeme goes into the tree or into the error, and nothing is decided by it.
Said for every part of a builder: what a builder without places does with a lexeme without its
place is what the builder does with the lexeme, without places (`Takes.unlocated`,
`Refuses.unlocated`). Hence building commutes with leaving out the places (`build_unlocated`).
-/

namespace ArithCompiler

def Lexeme.unlocated (l : Lexeme) : Lexeme := { l with loc := .nowhere }

def Frame.unlocated : Frame → Frame
  | .binary _ left op => .binary .nowhere left.unlocated op
  | .assign _ name => .assign .nowhere name
  | .ret _ => .ret .nowhere

def Draft.unlocated (d : Draft) : Draft :=
  ⟨d.spine.map Frame.unlocated, d.operand.map Expr.unlocated⟩

def OpenGroup.unlocated (g : OpenGroup) : OpenGroup := ⟨.nowhere, g.parent.unlocated⟩

def BuildCause.unlocated : BuildCause → BuildCause
  | .operandAfter before => .operandAfter before.unlocated
  | .groupAfter _ before => .groupAfter .nowhere before.unlocated
  | .unclosedGroup _ => .unclosedGroup .nowhere
  | .incompleteStatement statement => .incompleteStatement statement.unlocated
  | .incompleteGroup _ inner => .incompleteGroup .nowhere inner.unlocated
  | .unknownOperator => .unknownOperator
  | .noLeftOperand => .noLeftOperand
  | .returnInGroup => .returnInGroup
  | .conditional => .conditional
  | .unmatchedClose => .unmatchedClose
  | .unknownKeyword => .unknownKeyword
  | .endAsLexeme => .endAsLexeme
  | .unknownLexeme code => .unknownLexeme code

def BuildError.unlocated (e : BuildError) : BuildError := ⟨e.cause.unlocated, e.lexeme.unlocated⟩

theorem BuildError.kind_unlocated (e : BuildError) : e.unlocated.kind = e.kind := by
  obtain ⟨cause, l⟩ := e
  cases cause <;> rfl

/-! ### Drafts -/

theorem Frame.fill_unlocated (f : Frame) (e : Expr) :
    f.unlocated.fill e.unlocated = (f.fill e).unlocated := by
  cases f <;> rfl

theorem Frame.keepsAbove_unlocated (f : Frame) (op : Operator) :
    f.unlocated.keepsAbove op = f.keepsAbove op := by
  cases f <;> rfl

namespace Draft

theorem plug_unlocated (spine : List Frame) (e : Expr) :
    plug (spine.map Frame.unlocated) e.unlocated = (plug spine e).unlocated := by
  induction spine generalizing e with
  | nil => rfl
  | cons f spine ih => rw [List.map_cons, plug_cons, plug_cons, Frame.fill_unlocated, ih]

theorem root_unlocated (d : Draft) : d.unlocated.root = d.root.unlocated := by
  obtain ⟨spine, operand⟩ := d
  cases operand with
  | none => exact plug_unlocated spine .hole
  | some e => exact plug_unlocated spine e

theorem isEmpty_unlocated (d : Draft) : d.unlocated.isEmpty = d.isEmpty := by
  simp [unlocated, isEmpty]

theorem eq_empty_of_unlocated {d : Draft} (h : d.unlocated = .empty) : d = .empty := by
  have he : d.unlocated.isEmpty = true := by rw [h]; rfl
  rw [isEmpty_unlocated] at he
  exact eq_empty_of_isEmpty he

theorem climb_unlocated (op : Operator) (spine : List Frame) (e : Expr) :
    climb op (spine.map Frame.unlocated) e.unlocated =
      ((climb op spine e).1.map Frame.unlocated, (climb op spine e).2.unlocated) := by
  induction spine generalizing e with
  | nil => rfl
  | cons f spine ih =>
    rw [List.map_cons, climb, climb, Frame.keepsAbove_unlocated]
    split
    · rfl
    · rw [Frame.fill_unlocated, ih]

theorem assign?_unlocated (d : Draft) (loc : Location) :
    d.unlocated.assign? .nowhere = (d.assign? loc).map unlocated := by
  obtain ⟨spine, operand⟩ := d
  cases spine with
  | cons f spine => rfl
  | nil =>
    cases operand with
    | none => rfl
    | some e => cases e <;> rfl

end Draft

/-! ### Steps -/

namespace Builder

def unlocated (b : Builder) : Builder :=
  ⟨b.statements.map Expr.unlocated, b.current.unlocated, b.groups.map OpenGroup.unlocated,
    b.failure.map BuildError.unlocated⟩

theorem operand_eq_none_unlocated {d : Draft} (h : d.operand = none) :
    d.unlocated.operand = none := by
  simp [Draft.unlocated, h]

theorem operand_eq_some_unlocated {d : Draft} {e : Expr} (h : d.operand = some e) :
    d.unlocated.operand = some e.unlocated := by
  simp [Draft.unlocated, h]

theorem groups_eq_nil_unlocated {b : Builder} (h : b.groups = []) : b.unlocated.groups = [] := by
  simp [unlocated, h]

theorem groups_eq_cons_unlocated {b : Builder} {g : OpenGroup} {gs : List OpenGroup}
    (h : b.groups = g :: gs) :
    b.unlocated.groups = g.unlocated :: gs.map OpenGroup.unlocated := by
  simp [unlocated, h]

theorem root_current_unlocated (b : Builder) :
    b.unlocated.current.root = b.current.root.unlocated :=
  b.current.root_unlocated

theorem Takes.unlocated {b b' : Builder} {l : Lexeme} {warnings : List BuildEvent}
    (h : Takes b l b' warnings) :
    ∃ warnings', Takes b.unlocated l.unlocated b'.unlocated warnings' := by
  cases h with
  | number hk ho => exact ⟨_, .number hk (operand_eq_none_unlocated ho)⟩
  | name hk ho => exact ⟨_, .name hk (operand_eq_none_unlocated ho)⟩
  | @arithmetic op e hk ho =>
    have ht := Takes.arithmetic (b := b.unlocated) (l := l.unlocated) hk
      (operand_eq_some_unlocated ho)
    have hclimb := Draft.climb_unlocated op b.current.spine e
    change Takes _ _ { b.unlocated with current := ⟨.binary .nowhere
      (Draft.climb op (b.current.spine.map Frame.unlocated) e.unlocated).2 op ::
        (Draft.climb op (b.current.spine.map Frame.unlocated) e.unlocated).1, none⟩ } [] at ht
    rw [hclimb] at ht
    exact ⟨_, ht⟩
  | endStatement hk hg ho =>
    have ht := Takes.endStatement (l := l.unlocated) hk (groups_eq_nil_unlocated hg)
      (operand_eq_some_unlocated ho)
    have hstatements : b.unlocated.statements ++ [b.current.root.unlocated] =
        (b.statements ++ [b.current.root]).map Expr.unlocated := by
      rw [List.map_append]
      rfl
    rw [root_current_unlocated, hstatements] at ht
    exact ⟨_, ht⟩
  | endNothing hk hg hc =>
    have hc' : b.unlocated.current = .empty := by simp only [Builder.unlocated, hc]; rfl
    exact ⟨_, .endNothing hk (groups_eq_nil_unlocated hg) hc'⟩
  | @assign loc name hk hc =>
    have hc' : b.unlocated.current = ⟨[], some (.var .nowhere name)⟩ := by
      simp only [Builder.unlocated, hc]; rfl
    exact ⟨_, .assign hk hc'⟩
  | dropAssign hk hc =>
    have hc' : b.unlocated.current.assign? l.unlocated.loc = none := by
      have hnone := Draft.assign?_unlocated b.current l.loc
      rw [hc] at hnone
      exact hnone
    exact ⟨_, .dropAssign hk hc'⟩
  | openGroup hk => exact ⟨_, .openGroup hk⟩
  | @closeGroup g gs e hk hg ho hp =>
    have ht := Takes.closeGroup (l := l.unlocated) hk (groups_eq_cons_unlocated hg)
      (operand_eq_some_unlocated ho) (operand_eq_none_unlocated hp)
    rw [root_current_unlocated] at ht
    exact ⟨_, ht⟩
  | startReturn hk hg => exact ⟨_, .startReturn hk (groups_eq_nil_unlocated hg)⟩

theorem Refuses.unlocated {b : Builder} {l : Lexeme} {e : BuildError} (h : Refuses b l e) :
    Refuses b.unlocated l.unlocated e.unlocated := by
  cases h with
  | operandAfter hk ho =>
    have h := Refuses.operandAfter (b := b.unlocated) (l := l.unlocated) hk
      (operand_eq_some_unlocated ho)
    rwa [root_current_unlocated] at h
  | unclosedGroup hk hg => exact .unclosedGroup (l := l.unlocated) hk (groups_eq_cons_unlocated hg)
  | incompleteStatement hk hg ho hc =>
    have hc' : b.unlocated.current ≠ .empty := fun he => hc (Draft.eq_empty_of_unlocated he)
    have h := Refuses.incompleteStatement (l := l.unlocated) hk (groups_eq_nil_unlocated hg)
      (operand_eq_none_unlocated ho) hc'
    rwa [root_current_unlocated] at h
  | unknownOperator hk hsemi heq hs => exact .unknownOperator hk hsemi heq hs
  | noLeftOperand hk ho => exact .noLeftOperand hk (operand_eq_none_unlocated ho)
  | unmatchedClose hk hg => exact .unmatchedClose hk (groups_eq_nil_unlocated hg)
  | incompleteGroup hk hg ho =>
    have h := Refuses.incompleteGroup (l := l.unlocated) hk (groups_eq_cons_unlocated hg)
      (operand_eq_none_unlocated ho)
    rwa [root_current_unlocated] at h
  | @groupAfter g gs e x hk hg ho hp =>
    have h := Refuses.groupAfter (l := l.unlocated) hk (groups_eq_cons_unlocated hg)
      (operand_eq_some_unlocated ho) (operand_eq_some_unlocated hp)
    have hparent : g.unlocated.parent.root = g.parent.root.unlocated := g.parent.root_unlocated
    rwa [hparent] at h
  | returnInGroup hk hg => exact .returnInGroup hk (groups_eq_cons_unlocated hg)
  | conditional hk => exact .conditional hk
  | unknownKeyword hk ht => exact .unknownKeyword hk ht
  | endAsLexeme hk => exact .endAsLexeme hk
  | unknownLexeme hk => exact .unknownLexeme hk

/-! ### Runs -/

theorem push_unlocated (b : Builder) (l : Lexeme) :
    (b.unlocated.push l.unlocated).2 = (b.push l).2.unlocated := by
  cases hf : b.failure with
  | some e => simp only [push, hf, unlocated, Option.map_some]
  | none =>
    have hf' : b.unlocated.failure = none := by simp [unlocated, hf]
    rcases takes_or_refuses b l with ⟨b', warnings, ht⟩ | ⟨e, href⟩
    · obtain ⟨warnings', ht'⟩ := ht.unlocated
      rw [push_of_takes hf ht, push_of_takes hf' ht']
    · rw [push_of_refuses hf href, push_of_refuses hf' href.unlocated]
      rfl

theorem foldl_answer_unlocated (b : Builder) (ls : List Lexeme) :
    ((ls.map Lexeme.unlocated).map Call.push).foldl answer b.unlocated =
      ((ls.map Call.push).foldl answer b).unlocated := by
  induction ls generalizing b with
  | nil => rfl
  | cons l ls ih =>
    simp only [List.map_cons, List.foldl_cons, answer]
    rw [push_unlocated, ih]

theorem finish_unlocated (b : Builder) :
    b.unlocated.finish.1 =
      (b.finish.1.map (List.map Expr.unlocated)).mapError BuildError.unlocated := by
  cases hf : b.failure with
  | some e => simp [finish, unlocated, hf, Except.map, Except.mapError]
  | none =>
    cases hg : b.groups with
    | cons g gs =>
      simp only [finish, unlocated, hf, hg, Option.map_none, List.map_cons, Except.map,
        Except.mapError]
      rfl
    | nil =>
      cases ho : b.current.operand with
      | some e =>
        have ho' := operand_eq_some_unlocated ho
        simp only [finish, unlocated, hf, hg, Option.map_none, List.map_nil, finishStatement, ho,
          ho', Except.map, Except.mapError, List.map_append, List.map_singleton,
          Draft.root_unlocated]
      | none =>
        have ho' := operand_eq_none_unlocated ho
        by_cases he : b.current.isEmpty = true
        · simp only [finish, unlocated, hf, hg, Option.map_none, List.map_nil, finishStatement, ho,
            ho', Draft.isEmpty_unlocated, he, ite_true, Except.map, Except.mapError]
        · simp only [finish, unlocated, hf, hg, Option.map_none, List.map_nil, finishStatement, ho,
            ho', Draft.isEmpty_unlocated, he, Except.map, Except.mapError, Draft.root_unlocated]
          rfl

end Builder

theorem build_unlocated (ls : List Lexeme) :
    (build (ls.map Lexeme.unlocated)).2 =
      ((build ls).2.map (List.map Expr.unlocated)).mapError BuildError.unlocated := by
  rw [Builder.build_eq_after, Builder.build_eq_after, ← Builder.finish_unlocated]
  exact congrArg (fun b => b.finish.1) (Builder.foldl_answer_unlocated .new ls)

end ArithCompiler
