import ArithCompiler.Proofs.Cursors
import ArithCompiler.Proofs.Scanning

/-!
# Builders under any calls

A builder may be given lexemes of any kind, and be asked to finish, in any order and
any number of times (`Builder.after`). Its drafts are then in order, with a return
only in the draft of a statement, and no finished statement has a hole
(`wellFormed_after`). The same holds of the cursors that go in step with the drafts.
-/

namespace ArithCompiler

namespace Builder

/-- The current draft and those around it. The last one is that of the statement, the
others are of open parentheses. -/
def drafts (b : Builder) : List Draft := b.current :: b.groups.map OpenGroup.parent

structure WellFormed (b : Builder) : Prop where
  drafts : ∀ d ∈ b.drafts, d.WellFormed
  /-- Steps in place lead to the cursors of the drafts, and what these store fits together. -/
  cursors : ∀ d ∈ b.drafts, d.cursor.Reached ∧ d.cursor.WellFormed
  /-- There is no return inside parentheses. -/
  returns : ∀ d ∈ b.drafts.dropLast, ∀ e ∈ d.slots, e.isReturn = false
  statements : ∀ s ∈ b.statements, s.isComplete = true

structure Ordered (b : Builder) : Prop where
  drafts : ∀ d ∈ b.drafts, d.Ordered
  cursors : ∀ d ∈ b.drafts, d.cursor.Reached
  returns : ∀ d ∈ b.drafts.dropLast, ∀ f ∈ d.spine, f.isReturn = false
  statements : ∀ s ∈ b.statements, s.isComplete = true

theorem Ordered.wellFormed {b : Builder} (h : b.Ordered) : b.WellFormed where
  drafts := fun d hd => (h.drafts d hd).wellFormed
  cursors := fun d hd => ⟨h.cursors d hd, (h.cursors d hd).wellFormed⟩
  returns := fun d hd =>
    (h.drafts d (List.dropLast_subset _ hd)).isReturn_slots (h.returns d hd)
  statements := h.statements

theorem ordered_new : Ordered new where
  drafts := by simpa [Builder.drafts, new] using Draft.ordered_empty
  cursors := List.forall_mem_singleton.mpr .new
  returns := by simp [Builder.drafts, new]
  statements := by simp [new]

theorem Ordered.current {b : Builder} (h : b.Ordered) : b.current.Ordered :=
  h.drafts b.current (List.mem_cons_self ..)

theorem Ordered.reached {b : Builder} (h : b.Ordered) : b.current.cursor.Reached :=
  h.cursors b.current (List.mem_cons_self ..)

theorem forall_drafts_replace {P : Draft → Prop} {b : Builder} {d : Draft}
    (h : ∀ x ∈ b.drafts, P x) (hd : P d) : ∀ x ∈ drafts { b with current := d }, P x := by
  intro x hx
  rcases List.mem_cons.mp hx with rfl | hx
  · exact hd
  · exact h x (List.mem_cons_of_mem _ hx)

/-- Another current draft, which has a return only if the old one has. -/
theorem Ordered.replace {b : Builder} (h : b.Ordered) {d : Draft} (hd : d.Ordered)
    (hc : d.cursor.Reached)
    (hr : (∀ f ∈ b.current.spine, f.isReturn = false) → ∀ f ∈ d.spine, f.isReturn = false) :
    Ordered { b with current := d } where
  drafts := forall_drafts_replace h.drafts hd
  cursors := forall_drafts_replace h.cursors hc
  returns := by
    have hreturns := h.returns
    simp only [Builder.drafts] at hreturns ⊢
    cases hg : b.groups.map OpenGroup.parent with
    | nil => simp
    | cons g gs =>
      simp only [hg, List.dropLast_cons_cons, List.mem_cons, forall_eq_or_imp] at hreturns ⊢
      exact ⟨hr hreturns.1, hreturns.2⟩
  statements := h.statements

theorem Ordered.attach {b : Builder} {e : Expr} (h : b.Ordered) (he : e.isAtomic = true)
    (ho : b.current.operand = none) :
    Ordered { b with current := { b.current with operand := some e } } := by
  have hstep : b.current.attach? e = some { b.current with operand := some e } := by
    rw [Draft.attach?, ho]
  exact h.replace (h.current.attach he) (Draft.reached_attach h.reached he hstep) id

theorem Ordered.isComplete_append {b : Builder} {e : Expr} (h : b.Ordered)
    (ho : b.current.operand = some e) :
    ∀ s ∈ b.statements ++ [b.current.root], s.isComplete = true := by
  intro s hs
  rcases List.mem_append.mp hs with hs | hs
  · exact h.statements s hs
  · obtain rfl := List.mem_singleton.mp hs
    exact h.current.isComplete_root ho

theorem Ordered.openGroup {b : Builder} (h : b.Ordered) (loc : Location) :
    Ordered { b with current := .empty, groups := ⟨loc, b.current⟩ :: b.groups } where
  drafts := List.forall_mem_cons.mpr ⟨Draft.ordered_empty, h.drafts⟩
  cursors := List.forall_mem_cons.mpr ⟨.new, h.cursors⟩
  returns := by
    have hreturns := h.returns
    simp only [Builder.drafts, List.map_cons, List.dropLast_cons_cons, List.mem_cons,
      forall_eq_or_imp] at hreturns ⊢
    exact ⟨by simp [Draft.empty], hreturns⟩
  statements := h.statements

theorem drafts_closeGroup {b : Builder} {g : OpenGroup} {gs : List OpenGroup}
    (hg : b.groups = g :: gs) :
    drafts { b with current := g.parent, groups := gs } ⊆ b.drafts := by
  intro d hd
  refine List.mem_cons_of_mem _ ?_
  simpa [hg, Builder.drafts] using hd

theorem Ordered.closeGroup {b : Builder} (h : b.Ordered) {g : OpenGroup} {gs : List OpenGroup}
    (hg : b.groups = g :: gs) : Ordered { b with current := g.parent, groups := gs } where
  drafts := fun d hd => h.drafts d (drafts_closeGroup hg hd)
  cursors := fun d hd => h.cursors d (drafts_closeGroup hg hd)
  returns := by
    have hreturns := h.returns
    simp only [Builder.drafts, hg, List.map_cons, List.dropLast_cons_cons, List.mem_cons,
      forall_eq_or_imp] at hreturns ⊢
    exact hreturns.2
  statements := h.statements

theorem Ordered.takes {b b' : Builder} {l : Lexeme} {warnings : List BuildEvent}
    (h : Takes b l b' warnings) (hb : Ordered b) : Ordered b' := by
  cases h with
  | number hk ho => exact hb.attach rfl ho
  | name hk ho => exact hb.attach rfl ho
  | @arithmetic op e hk ho =>
    have hstep : b.current.operator? l.loc op = some ⟨.binary l.loc
        (Draft.climb op b.current.spine e).2 op :: (Draft.climb op b.current.spine e).1, none⟩ := by
      rw [Draft.operator?, ho]
    refine hb.replace (hb.current.operator ho l.loc op) (Draft.reached_operator hb.reached hstep) ?_
    -- the frames that stay are frames of the old spine
    obtain ⟨taken, rest, hspine, hclimb, _, _⟩ := Draft.climb_eq op hb.current.below e
    intro hr f hf
    rw [hclimb] at hf
    rcases List.mem_cons.mp hf with rfl | hf
    · rfl
    · exact hr f (by rw [hspine]; exact List.mem_append_right _ hf)
  | endStatement hk hg ho =>
    have hempty := hb.replace Draft.ordered_empty .new (by simp [Draft.empty])
    exact ⟨hempty.drafts, hempty.cursors, hempty.returns, hb.isComplete_append ho⟩
  | endNothing => exact hb
  | @assign loc name hk hc =>
    have hstep : b.current.assign? l.loc = some ⟨[.assign l.loc name], none⟩ := by
      rw [hc, Draft.assign?]
    exact hb.replace (Draft.ordered_single rfl) (Draft.reached_assign hb.reached hstep)
      (by simp [Frame.isReturn])
  | dropAssign => exact hb
  | openGroup hk => exact hb.openGroup l.loc
  | closeGroup hk hg ho hp =>
    have hgroup := hb.current.isComplete_root ho
    exact (hb.closeGroup hg).attach hgroup hp
  | startReturn hk hg =>
    have hret : (Draft.startReturn l.loc).Ordered := Draft.ordered_single rfl
    have hreached : (Draft.startReturn l.loc).cursor.Reached := .startReturn l.loc
    exact ⟨by simpa [Builder.drafts, hg] using hret, by simpa [Builder.drafts, hg] using hreached,
      by simp [Builder.drafts, hg], hb.statements⟩

/-! ### Calls -/

/-- What a builder is asked to do. -/
inductive Call where
  | push (l : Lexeme)
  | finish

def answer (b : Builder) : Call → Builder
  | .push l => (b.push l).2
  | .finish => b.finish.2

/-- A new builder after some calls. -/
def after (calls : List Call) : Builder := calls.foldl answer .new

/-- Ending the last statement is taking a semicolon. -/
theorem takes_of_finishStatement_end {b b' : Builder} (hg : b.groups = [])
    (h : b.finishStatement .endOfInput = .ok b') :
    Takes b ⟨.operator, ";", .nowhere⟩ b' [] := by
  refine takes_of_finishStatement rfl hg ?_
  unfold finishStatement at h ⊢
  split at h
  · exact h
  · split at h
    · next he => rw [if_pos he]; exact h
    · cases h

theorem answer_cases (b : Builder) (c : Call) :
    b.answer c = b ∨ (∃ e, b.answer c = { b with failure := some e }) ∨
      ∃ l warnings, Takes b l (b.answer c) warnings := by
  cases hfail : b.failure with
  | some e => cases c <;> simp [answer, push, finish, hfail]
  | none =>
    cases c with
    | push l =>
      cases hs : b.step l with
      | error e => exact .inr (.inl ⟨e, by simp [answer, push, hfail, hs]⟩)
      | ok r =>
        have hanswer : b.answer (.push l) = r.1 := by simp [answer, push, hfail, hs]
        rw [hanswer]
        exact .inr (.inr ⟨l, r.2, takes_of_step hs⟩)
    | finish =>
      cases hg : b.groups with
      | cons g gs =>
        refine .inr (.inl ⟨⟨.unclosedGroup g.loc, .endOfInput⟩, ?_⟩)
        simp only [answer, finish, hfail, hg]
      | nil =>
        cases hf : b.finishStatement .endOfInput with
        | error e => exact .inr (.inl ⟨e, by simp only [answer, finish, hfail, hg, hf]⟩)
        | ok b' =>
          have hanswer : b.answer .finish = b' := by simp only [answer, finish, hfail, hg, hf]
          rw [hanswer]
          exact .inr (.inr ⟨_, [], takes_of_finishStatement_end hg hf⟩)

theorem Ordered.answer {b : Builder} (hb : b.Ordered) (c : Call) : (b.answer c).Ordered := by
  rcases answer_cases b c with h | ⟨e, h⟩ | ⟨l, warnings, h⟩
  · rw [h]
    exact hb
  · rw [h]
    exact ⟨hb.drafts, hb.cursors, hb.returns, hb.statements⟩
  · exact hb.takes h

theorem ordered_after (calls : List Call) : (after calls).Ordered := by
  have hrun : ∀ b : Builder, b.Ordered → (calls.foldl answer b).Ordered := by
    induction calls with
    | nil => exact fun b hb => hb
    | cons c calls ih => exact fun b hb => ih (b.answer c) (hb.answer c)
  exact hrun new ordered_new

/-- Whatever a builder is given, its drafts are in order, what their cursors store fits
together, and its statements have no holes. -/
theorem wellFormed_after (calls : List Call) : (after calls).WellFormed :=
  (ordered_after calls).wellFormed

/-- The lexemes of a text, pushed one after the other. -/
def pushes (text : String) : List Call := (scanned .start text.toList).map .push

/-- The spine of a statement with all that can be on one. -/
example : (after (pushes "a = 1 + 2 * 3")).current.slots.length = 4 := by decide +kernel

end Builder

end ArithCompiler
