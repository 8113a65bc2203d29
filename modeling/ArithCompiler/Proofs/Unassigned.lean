import ArithCompiler.Proofs.Lowering

/-!
# Why lowering fails

A program whose statements are values, or returns of values, is lowered unless it
reads a name that has no slot (`generate_eq_error`). So one without variables has
code (`exists_generate_eq_ok`).
-/

namespace ArithCompiler

/-- The variables of a tree, in order, with their places. -/
def Expr.vars : Expr → List (String × Location)
  | .hole | .literal _ _ => []
  | .var loc name => [(name, loc)]
  | .binary _ left _ right => left.vars ++ right.vars
  | .assign _ _ value => value.vars
  | .ret _ value => value.vars
  | .group _ inner => inner.vars

/-! ### Trees -/

theorem asOperand_eq_error {e : Expr} {l l' : Layout} {err : LoweringError}
    (he : e.isValue = true) (hl : 0 < l.next)
    (h : asOperand e (lower e l) = (.error err, l')) : lower e l = (.error err, l') := by
  cases hlow : lower e l with
  | mk r l₀ =>
    rw [hlow] at h
    cases r with
    | error err₀ => exact h
    | ok cv =>
      obtain ⟨code, v⟩ := cv
      -- what holds a value is not empty, so it can be read
      have hheld := (straight_lower he hl hlow).2
      simp [asOperand, Operand.isNone_of_held hheld] at h

theorem lower_eq_error {e : Expr} {l l' : Layout} {err : LoweringError}
    (he : e.isValue = true) (hl : 0 < l.next) (h : lower e l = (.error err, l')) :
    ∃ name loc, err = .unassigned name loc ∧ (name, loc) ∈ e.vars := by
  induction e generalizing l l' with
  | hole => cases he
  | ret => cases he
  | literal loc digits => cases h
  | var loc name =>
    by_cases hn : name ∈ l.slots
    · simp [lower, hn] at h
    · simp only [lower, hn, ite_false, Prod.mk.injEq, Except.error.injEq] at h
      exact ⟨name, loc, h.1.symm, List.mem_singleton.mpr rfl⟩
  | binary loc left op right ihl ihr =>
    simp only [Expr.isValue, Bool.and_eq_true] at he
    obtain ⟨⟨hleft, hop⟩, hright⟩ := he
    rw [lower] at h
    split at h
    · next err₁ l₁ h₁ =>
      cases h
      obtain ⟨name, loc', rfl, hmem⟩ := ihl hleft hl (asOperand_eq_error hleft hl h₁)
      exact ⟨name, loc', rfl, List.mem_append_left _ hmem⟩
    · next code₁ v₁ l₁ h₁ =>
      have hl₁ := (straight_asOperand hl (straight_lower hleft hl) h₁).1.next_pos hl
      split at h
      · next err₂ l₂ h₂ =>
        cases h
        obtain ⟨name, loc', rfl, hmem⟩ := ihr hright hl₁ (asOperand_eq_error hright hl₁ h₂)
        exact ⟨name, loc', rfl, List.mem_append_right _ hmem⟩
      · cases op with
        | known o => cases h
        | unassigned n => cases hop
  | assign loc name value ih =>
    simp only [Expr.isValue, Bool.and_eq_true] at he
    rw [lower] at h
    split at h
    · next err₁ l₁ h₁ =>
      cases h
      exact ih he.2 hl (asOperand_eq_error he.2 hl h₁)
    · split at h <;> cases h
  | group loc inner ih => exact ih he hl h

theorem lower_statement_eq_error {s : Expr} {l l' : Layout} {err : LoweringError}
    (hs : s.isStatement = true) (hl : 0 < l.next) (h : lower s l = (.error err, l')) :
    ∃ name loc, err = .unassigned name loc ∧ (name, loc) ∈ s.vars := by
  cases hr : s.isReturn with
  | false => exact lower_eq_error (Expr.isValue_of_isStatement hs hr) hl h
  | true =>
    cases s with
    | ret loc value =>
      have hv : value.isValue = true := hs
      rw [lower] at h
      split at h
      · next err₁ l₁ h₁ =>
        cases h
        have hvalue := lower_eq_error hv hl (asOperand_eq_error hv hl h₁)
        exact hvalue
      · cases h
    | _ => cases hr

/-! ### Programs -/

theorem lowerAll_eq_error {i : Nat} {last : Operand} {p : List Expr} {l l' : Layout}
    {err : GenerateError} (hp : ∀ s ∈ p, s.isStatement = true) (hl : 0 < l.next)
    (h : lowerAll i last p l = (.error err, l')) :
    ∃ s ∈ p, ∃ name loc, err.cause = .unassigned name loc ∧ (name, loc) ∈ s.vars := by
  induction p generalizing i last l with
  | nil => cases h
  | cons s rest ih =>
    have hs := hp s (List.mem_cons_self ..)
    rw [lowerAll] at h
    split at h
    · next err₁ l₁ h₁ =>
      cases h
      exact ⟨s, List.mem_cons_self .., lower_statement_eq_error hs hl h₁⟩
    · next code v l₁ h₁ =>
      split at h
      · cases h
      · next hr =>
        have hval := Expr.isValue_of_isStatement hs (by simpa using hr)
        have hl₁ := (straight_lower hval hl h₁).1.next_pos hl
        split at h
        · next err₂ l₂ h₂ =>
          cases h
          obtain ⟨t, ht, hcause⟩ := ih (fun t ht => hp t (List.mem_cons_of_mem _ ht)) hl₁ h₂
          exact ⟨t, List.mem_cons_of_mem _ ht, hcause⟩
        · cases h

theorem generate_eq_error {p : Program} {name : String} {err : GenerateError} {l : Layout}
    (hp : ∀ s ∈ p, s.isStatement = true) (h : generate p name = (.error err, l)) :
    ∃ s ∈ p, ∃ x loc, err.cause = .unassigned x loc ∧ (x, loc) ∈ s.vars := by
  unfold generate at h
  split at h
  · next err₁ l₁ h₁ =>
    cases h
    exact lowerAll_eq_error hp (by decide) h₁
  · split at h <;> cases h

theorem exists_generate_eq_ok {p : Program} (name : String)
    (hp : ∀ s ∈ p, s.isStatement = true) (hv : ∀ s ∈ p, s.vars = []) :
    ∃ g l, generate p name = (.ok g, l) := by
  cases hgen : generate p name with
  | mk r l =>
    cases r with
    | ok g => exact ⟨g, l, rfl⟩
    | error err =>
      obtain ⟨s, hs, x, loc, _, hmem⟩ := generate_eq_error hp hgen
      rw [hv s hs] at hmem
      cases hmem

end ArithCompiler
