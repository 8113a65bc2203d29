import ArithCompiler.Proofs.Unassigned
import Mathlib.Control.Monad.Basic
import Mathlib.Data.List.Forall2

/-!
# Groups and places leave no trace in the code

A tree without its groups and places (`Expr.bare`) is lowered to the same code as the tree
itself (`lower_bare`). So programs whose statements are alike but for groups and places have
the same function (`generate_alike`). In particular, a parenthesis around a part of a program
can be left out or added wherever it does not enclose a return (`generate_regrouped`).
-/

namespace ArithCompiler

/-- The tree without its groups and places. -/
def Expr.bare : Expr → Expr
  | .hole => .hole
  | .literal _ digits => .literal .nowhere digits
  | .var _ name => .var .nowhere name
  | .binary _ left op right => .binary .nowhere left.bare op right.bare
  | .assign _ name value => .assign .nowhere name value.bare
  | .ret _ value => .ret .nowhere value.bare
  | .group _ inner => inner.bare

def LoweringError.bare : LoweringError → LoweringError
  | .incompleteTree => .incompleteTree
  | .unassigned name _ => .unassigned name .nowhere
  | .noValue e => .noValue e.bare
  | .unknownOperator n => .unknownOperator n

/-- The error without places, that of its statement included. -/
def GenerateError.bare (e : GenerateError) : GenerateError := ⟨e.statement, none, e.cause.bare⟩

/-- Statements that differ in groups and places only. -/
structure Expr.Alike (s t : Expr) : Prop where
  bare : s.bare = t.bare
  isReturn : s.isReturn = t.isReturn

/-! ### Trees -/

theorem asOperand_bare (e : Expr) (r : Lowered × Layout) :
    asOperand e.bare (r.1.mapError .bare, r.2) =
      ((asOperand e r).1.mapError .bare, (asOperand e r).2) := by
  obtain ⟨res, l⟩ := r
  cases res with
  | error err => rfl
  | ok cv =>
    obtain ⟨code, v⟩ := cv
    simp only [Except.mapError, asOperand]
    split <;> rfl

theorem lower_bare (e : Expr) (l : Layout) :
    lower e.bare l = ((lower e l).1.mapError .bare, (lower e l).2) := by
  induction e generalizing l with
  | hole => rfl
  | literal loc digits => rfl
  | var loc name =>
    simp only [Expr.bare, lower]
    split <;> rfl
  | binary loc left op right ihl ihr =>
    simp only [Expr.bare, lower, ihl, ihr, asOperand_bare]
    cases asOperand left (lower left l) with
    | mk r₁ l₁ =>
      cases r₁ with
      | error err => rfl
      | ok cv₁ =>
        simp only [Except.mapError]
        cases asOperand right (lower right l₁) with
        | mk r₂ l₂ =>
          cases r₂ with
          | error err => rfl
          | ok cv₂ => cases op <;> rfl
  | assign loc name value ih =>
    simp only [Expr.bare, lower, ih, asOperand_bare]
    cases asOperand value (lower value l) with
    | mk r l₁ =>
      cases r with
      | error err => rfl
      | ok cv =>
        simp only [Except.mapError]
        split <;> rfl
  | ret loc value ih =>
    simp only [Expr.bare, lower, ih, asOperand_bare]
    cases asOperand value (lower value l) with
    | mk r l₁ => cases r <;> rfl
  | group loc inner ih => exact ih l

/-- Results that are the same, or errors that `f` does not tell apart, with the same layout. -/
inductive Agree {ε ε' α : Type} (f : ε → ε') :
    Except ε α × Layout → Except ε α × Layout → Prop
  | ok (a : α) (l : Layout) : Agree f (.ok a, l) (.ok a, l)
  | error {e e' : ε} (h : f e = f e') (l : Layout) : Agree f (.error e, l) (.error e', l)

theorem agree_of_mapError {ε ε' α : Type} {f : ε → ε'} {x y : Except ε α × Layout}
    (h : x.1.mapError f = y.1.mapError f) (hl : x.2 = y.2) : Agree f x y := by
  obtain ⟨r, l⟩ := x
  obtain ⟨r', l'⟩ := y
  cases hl
  cases r with
  | ok a =>
    cases r' with
    | ok b =>
      cases h
      exact .ok a l
    | error e => cases h
  | error e =>
    cases r' with
    | ok b => cases h
    | error e' => exact .error (Except.error.inj h) l

theorem Agree.eq_ok_iff {ε ε' α : Type} {f : ε → ε'} {x y : Except ε α × Layout}
    (h : Agree f x y) (a : α) : x.1 = .ok a ↔ y.1 = .ok a := by
  cases h with
  | ok b l => exact Iff.rfl
  | error herr l => simp

theorem lower_alike {s t : Expr} (h : s.Alike t) (l : Layout) :
    Agree LoweringError.bare (lower s l) (lower t l) := by
  have hs := lower_bare s l
  rw [h.bare, lower_bare t l] at hs
  obtain ⟨hresult, hlayout⟩ := Prod.mk.inj hs
  exact agree_of_mapError hresult.symm hlayout.symm

/-! ### Programs -/

theorem lowerAll_alike {p q : List Expr} (h : List.Forall₂ Expr.Alike p q) (i : Nat)
    (last : Operand) (l : Layout) :
    Agree GenerateError.bare (lowerAll i last p l) (lowerAll i last q l) := by
  induction h generalizing i last l with
  | nil => exact .ok _ l
  | @cons s t p q hst hpq ih =>
    have hfirst := lower_alike hst l
    simp only [lowerAll, hst.isReturn, hpq.length_eq]
    generalize lower s l = x at hfirst ⊢
    generalize lower t l = y at hfirst ⊢
    cases hfirst with
    | error hcause l₁ => exact .error (by simp [GenerateError.bare, hcause]) l₁
    | ok cv l₁ =>
      obtain ⟨code, v⟩ := cv
      dsimp only
      split
      · exact .ok _ l₁
      · have hrest := ih (i + 1) v l₁
        generalize lowerAll (i + 1) v p l₁ = x at hrest ⊢
        generalize lowerAll (i + 1) v q l₁ = y at hrest ⊢
        cases hrest with
        | ok body l₂ => exact .ok _ l₂
        | error herr l₂ => exact .error herr l₂

theorem generate_alike {p q : Program} (h : List.Forall₂ Expr.Alike p q) (name : String) :
    Agree GenerateError.bare (generate p name) (generate q name) := by
  have hall := lowerAll_alike h 1 (.ofImmediate "0") .initial
  unfold generate
  generalize lowerAll 1 (.ofImmediate "0") p .initial = x at hall ⊢
  generalize lowerAll 1 (.ofImmediate "0") q .initial = y at hall ⊢
  cases hall with
  | error herr l => exact .error herr l
  | ok body l =>
    dsimp only
    split
    · exact .ok _ l
    · exact .ok _ _

/-! ### Parentheses -/

/-- One tree from another by leaving out groups and by putting parts into groups. A return is
put into none. -/
inductive Regrouped : Expr → Expr → Prop
  | hole : Regrouped .hole .hole
  | literal (loc : Location) (digits : String) :
    Regrouped (.literal loc digits) (.literal loc digits)
  | var (loc : Location) (name : String) : Regrouped (.var loc name) (.var loc name)
  | binary (loc : Location) (op : OpCode) {left left' right right' : Expr}
    (hl : Regrouped left left') (hr : Regrouped right right') :
    Regrouped (.binary loc left op right) (.binary loc left' op right')
  | assign (loc : Location) (name : String) {value value' : Expr} (h : Regrouped value value') :
    Regrouped (.assign loc name value) (.assign loc name value')
  | ret (loc : Location) {value value' : Expr} (h : Regrouped value value') :
    Regrouped (.ret loc value) (.ret loc value')
  | keep (loc : Location) {inner inner' : Expr} (h : Regrouped inner inner') :
    Regrouped (.group loc inner) (.group loc inner')
  | erase (loc : Location) {inner e : Expr} (h : Regrouped inner e) :
    Regrouped (.group loc inner) e
  | wrap (loc : Location) {e e' : Expr} (he : e.isReturn = false) (h : Regrouped e e') :
    Regrouped e (.group loc e')

theorem Regrouped.bare_eq {s t : Expr} (h : Regrouped s t) : s.bare = t.bare := by
  induction h with
  | hole | literal | var => rfl
  | binary loc op hl hr ihl ihr => simp only [Expr.bare, ihl, ihr]
  | assign loc name h ih => simp only [Expr.bare, ih]
  | ret loc h ih => simp only [Expr.bare, ih]
  | keep loc h ih => exact ih
  | erase loc h ih => exact ih
  | wrap loc he h ih => exact ih

theorem Regrouped.isReturn_eq {s t : Expr} (h : Regrouped s t) (hs : s.isStatement = true) :
    s.isReturn = t.isReturn := by
  induction h with
  | @erase loc inner e h ih =>
    -- what stands in a group is a value, so no return comes out of it
    have hv : inner.isValue = true := hs
    have hinner := ih (Expr.isStatement_of_isValue hv)
    cases inner with
    | ret => cases hv
    | _ => exact hinner
  | wrap loc he h ih => exact he
  | _ => rfl

/-- Leaving out groups of a program that was built from a text, or putting parts of it into
groups, does not change whether it has a function, nor its function. -/
theorem generate_regrouped {source : List UInt8} {ls : List Lexeme} {events : List BuildEvent}
    {p q : Program} (hscan : tokenize source = .ok ls) (hbuild : build ls = (events, .ok p))
    (hq : List.Forall₂ Regrouped p q) (name : String) (g : Generated) :
    (generate p name).1 = .ok g ↔ (generate q name).1 = .ok g := by
  have hp := isStatement_of_build hscan hbuild
  have hboth : List.Forall₂ (fun s t => s.isStatement = true ∧ Regrouped s t) p q :=
    (List.forall₂_and_left p q).mpr ⟨hp, hq⟩
  have halike : List.Forall₂ Expr.Alike p q :=
    hboth.imp fun s t h => ⟨h.2.bare_eq, h.2.isReturn_eq h.1⟩
  have hagree := generate_alike halike name
  generalize generate p name = x at hagree ⊢
  generalize generate q name = y at hagree ⊢
  cases hagree with
  | ok g' l => exact Iff.rfl
  | error herr l => simp

/-- The statements of `(a = 2) * 3; return (a)`. -/
def tripling : Program :=
  [.binary ⟨1, 9⟩ (.group ⟨1, 1⟩ (.assign ⟨1, 4⟩ "a" (.literal ⟨1, 6⟩ "2"))) (.known .mul)
      (.literal ⟨1, 11⟩ "3"),
    .ret ⟨1, 14⟩ (.group ⟨1, 21⟩ (.var ⟨1, 22⟩ "a"))]

/-- The same without its two groups, and with two others. -/
def triplingRegrouped : Program :=
  [.group .nowhere (.binary ⟨1, 9⟩ (.assign ⟨1, 4⟩ "a" (.literal ⟨1, 6⟩ "2")) (.known .mul)
      (.group .nowhere (.literal ⟨1, 11⟩ "3"))),
    .ret ⟨1, 14⟩ (.var ⟨1, 22⟩ "a")]

def triplingCode : Generated :=
  ⟨⟨"main", [.alloca "a", .store (.ofImmediate "2") "a", .load 1 "a",
    .binary 2 "mul" (.ofRegister 1) (.ofImmediate "3"), .load 3 "a", .ret (.ofRegister 3)], 3⟩, 0⟩

theorem generate_regrouped_tripling :
    (∃ ls events, tokenize (Text.encode "(a = 2) * 3; return (a)") = .ok ls ∧
      build ls = (events, .ok tripling)) ∧
    List.Forall₂ Regrouped tripling triplingRegrouped ∧
    (generate tripling "main").1 = .ok triplingCode ∧
    (generate triplingRegrouped "main").1 = .ok triplingCode := by
  have hscan := tokenize_eq (Text.encode "(a = 2) * 3; return (a)")
  have hbuild : ∃ events, build (scanned .start (Text.trim (Text.decode (Text.encode
      "(a = 2) * 3; return (a)")))) = (events, .ok tripling) :=
    ⟨_, Prod.ext rfl (by decide +kernel)⟩
  obtain ⟨events, hbuild⟩ := hbuild
  have hfirst : Regrouped (.binary ⟨1, 9⟩ _ (.known .mul) _) (.group .nowhere _) :=
    .wrap .nowhere rfl (.binary ⟨1, 9⟩ (.known .mul)
      (.erase ⟨1, 1⟩ (.assign ⟨1, 4⟩ "a" (.literal ⟨1, 6⟩ "2")))
      (.wrap .nowhere rfl (.literal ⟨1, 11⟩ "3")))
  have hsecond : Regrouped (.ret ⟨1, 14⟩ _) (.ret ⟨1, 14⟩ _) :=
    .ret ⟨1, 14⟩ (.erase ⟨1, 21⟩ (.var ⟨1, 22⟩ "a"))
  have hq : List.Forall₂ Regrouped tripling triplingRegrouped :=
    .cons hfirst (.cons hsecond .nil)
  have hgen : (generate tripling "main").1 = .ok triplingCode := by decide +kernel
  exact ⟨⟨_, events, hscan, hbuild⟩, hq, hgen,
    (generate_regrouped hscan hbuild hq "main" triplingCode).mp hgen⟩

end ArithCompiler
