import ArithCompiler.Proofs.Lowering

/-!
# Other names for the variables

A renaming gives every identifier a name that no other one has (`Renaming`). Lowering a program
under other names gives the code of the program with its slots renamed, and if it fails it does
so for the same reason (`generate_rename`).
-/

namespace ArithCompiler

/-! ### Renamings -/

/-- New names for the identifiers, of which no two are the same and none is empty. -/
structure Renaming where
  name : String → String
  injective : ∀ {x y : String}, isName x = true → isName y = true → name x = name y → x = y
  ne_empty : ∀ {x : String}, isName x = true → name x ≠ ""

instance : CoeFun Renaming fun _ => String → String := ⟨Renaming.name⟩

namespace Renaming

theorem eq_iff (ρ : Renaming) {x y : String} (hx : isName x = true) (hy : isName y = true) :
    ρ x = ρ y ↔ x = y :=
  ⟨ρ.injective hx hy, congrArg ρ⟩

theorem mem_map_iff (ρ : Renaming) {x : String} {xs : List String} (hx : isName x = true)
    (hxs : ∀ y ∈ xs, isName y = true) : ρ x ∈ xs.map ρ ↔ x ∈ xs := by
  constructor
  · intro h
    obtain ⟨y, hy, heq⟩ := List.mem_map.mp h
    rwa [← ρ.injective (hxs y hy) hx heq]
  · exact List.mem_map_of_mem

end Renaming

/-! ### Trees and code under other names -/

section

variable (f : String → String)

def Expr.rename : Expr → Expr
  | .hole => .hole
  | .literal loc digits => .literal loc digits
  | .var loc name => .var loc (f name)
  | .binary loc left op right => .binary loc left.rename op right.rename
  | .assign loc name value => .assign loc (f name) value.rename
  | .ret loc value => .ret loc value.rename
  | .group loc inner => .group loc inner.rename

def Program.rename (p : Program) : Program := p.map (Expr.rename f)

/-- The operand with its slot renamed. One that has no slot gets none. -/
def Operand.rename (v : Operand) : Operand := if v.isSlot then { v with slot := f v.slot } else v

def Instr.rename : Instr → Instr
  | .alloca slot => .alloca (f slot)
  | .load r slot => .load r (f slot)
  | .store v slot => .store (v.rename f) (f slot)
  | .binary r operation v w => .binary r operation (v.rename f) (w.rename f)
  | .ret v => .ret (v.rename f)

def Function.rename (fn : Function) : Function := { fn with code := fn.code.map (Instr.rename f) }

def Generated.rename (g : Generated) : Generated := { g with function := g.function.rename f }

def Layout.rename (l : Layout) : Layout := { l with slots := l.slots.map f }

def LoweringError.rename : LoweringError → LoweringError
  | .incompleteTree => .incompleteTree
  | .unassigned name loc => .unassigned (f name) loc
  | .noValue e => .noValue (e.rename f)
  | .unknownOperator n => .unknownOperator n

def GenerateError.rename (e : GenerateError) : GenerateError :=
  { e with cause := e.cause.rename f }

def Body.rename (b : Body) : Body :=
  { b with code := b.code.map (Instr.rename f), value := b.value.rename f }

/-- A result or an error, and a layout, all renamed. -/
def renameOutcome {ε α : Type} (onError : ε → ε) (onResult : α → α) :
    Except ε α × Layout → Except ε α × Layout
  | (.error err, l) => (.error (onError err), l.rename f)
  | (.ok a, l) => (.ok (onResult a), l.rename f)

def renameLowered : Lowered × Layout → Lowered × Layout :=
  renameOutcome f (LoweringError.rename f) fun r => (r.1.map (Instr.rename f), r.2.rename f)

end

/-! ### Names in use -/

/-- The slot of the operand, if it has one, is that of an identifier. -/
def Operand.Named (v : Operand) : Prop := v.isSlot = true → isName v.slot = true

def Layout.Named (l : Layout) : Prop := ∀ x ∈ l.slots, isName x = true

/-- Lowering gives a slot only for an assignment. -/
theorem slot_lower {e : Expr} {l l' : Layout} {code : List Instr} {v : Operand}
    (h : lower e l = (.ok (code, v), l')) : v.slot = "" ∨ v.slot ∈ e.assigned := by
  induction e with
  | hole => cases h
  | literal loc digits =>
    cases h
    exact .inl rfl
  | var loc name =>
    obtain ⟨_, _, rfl, _⟩ := lower_var_eq_ok h
    exact .inl rfl
  | binary loc left op right =>
    obtain ⟨_, _, _, _, _, _, _, _, _, _, _, rfl, _⟩ := lower_binary_eq_ok h
    exact .inl rfl
  | assign loc name value =>
    obtain ⟨_, _, _, _, rfl, _⟩ := lower_assign_eq_ok h
    exact .inr (List.mem_append_right _ (List.mem_singleton.mpr rfl))
  | ret loc value =>
    unfold lower at h
    split at h
    · cases h
    · cases h
      exact .inl rfl
  | group loc inner ih => exact ih h

theorem named_lower {e : Expr} {l l' : Layout} {code : List Instr} {v : Operand}
    (he : e.isStatement = true) (hl : l.Named) (h : lower e l = (.ok (code, v), l')) :
    l'.Named ∧ v.Named := by
  constructor
  · intro x hx
    rcases (mem_slots_lower x h).mp hx with hx | hx
    · exact hl x hx
    · exact isName_of_mem_assigned he hx
  · intro hv
    rcases slot_lower h with hs | hs
    · simp [Operand.isSlot, hs] at hv
    · exact isName_of_mem_assigned he hs

theorem named_asOperand {e : Expr} {l l' : Layout} {code : List Instr} {w : Operand}
    (he : e.isStatement = true) (hl : l.Named)
    (h : asOperand e (lower e l) = (.ok (code, w), l')) : l'.Named := by
  obtain ⟨_, v, l₀, hlow, _, _, _, rfl⟩ := asOperand_eq_ok h
  have hl₀ := (named_lower he hl hlow).1
  intro x hx
  rw [slots_readSlot] at hx
  exact hl₀ x hx

theorem named_lowerAll {i : Nat} {last : Operand} {p : List Expr} {l l' : Layout} {body : Body}
    (hp : ∀ s ∈ p, s.isStatement = true) (hlast : last.Named) (hl : l.Named)
    (h : lowerAll i last p l = (.ok body, l')) : body.value.Named := by
  induction p generalizing i last l body with
  | nil =>
    cases h
    exact hlast
  | cons s rest ih =>
    obtain ⟨code, v, l₁, hlow, hcase⟩ := lowerAll_cons_eq_ok h
    obtain ⟨hl₁, hv⟩ := named_lower (hp s (List.mem_cons_self ..)) hl hlow
    rcases hcase with ⟨_, rfl, _⟩ | ⟨_, body', hrest, rfl⟩
    · exact hv
    · have hvalue := ih (fun t ht => hp t (List.mem_cons_of_mem _ ht)) hv hl₁ hrest
      exact hvalue

/-! ### Lowering -/

namespace Operand

theorem rename_of_not_isSlot (f : String → String) {v : Operand} (h : v.isSlot = false) :
    v.rename f = v := by
  simp [rename, h]

@[simp] theorem rename_ofRegister (f : String → String) (n : Int) :
    (ofRegister n).rename f = ofRegister n :=
  rename_of_not_isSlot f rfl

@[simp] theorem rename_ofImmediate (f : String → String) (digits : String) :
    (ofImmediate digits).rename f = ofImmediate digits :=
  rename_of_not_isSlot f rfl

@[simp] theorem rename_none (f : String → String) : none.rename f = none :=
  rename_of_not_isSlot f rfl

theorem rename_ofSlot (f : String → String) {name : String} (hn : isName name = true) :
    (ofSlot name).rename f = ofSlot (f name) := by
  rw [rename, if_pos (isSlot_ofSlot (ne_empty_of_isName hn))]
  rfl

end Operand

theorem Operand.slot_rename (f : String → String) {v : Operand} (h : v.isSlot = true) :
    (v.rename f).slot = f v.slot := by
  simp [rename, h]

section

variable (ρ : Renaming)

theorem Operand.isSlot_rename {v : Operand} (hv : v.Named) : (v.rename ρ).isSlot = v.isSlot := by
  unfold Operand.rename
  split
  · next hs =>
    rw [hs]
    exact Operand.isSlot_ofSlot (ρ.ne_empty (hv hs))
  · rfl

theorem Operand.isNone_rename {v : Operand} (hv : v.Named) : (v.rename ρ).isNone = v.isNone := by
  have hne : ∀ {w : Operand}, w.isSlot = true → w.isNone = false := by
    intro w hw
    simp only [isSlot, bne_iff_ne, ne_eq] at hw
    simp only [isNone, none, beq_eq_false_iff_ne, ne_eq]
    rintro rfl
    exact hw rfl
  cases hs : v.isSlot with
  | true => rw [hne hs, hne ((isSlot_rename ρ hv).trans hs)]
  | false => simp [Operand.rename, hs]

theorem readSlot_rename {v : Operand} (hv : v.Named) (l : Layout) :
    readSlot (v.rename ρ) (l.rename ρ) =
      ((readSlot v l).1.map (Instr.rename ρ), (readSlot v l).2.1.rename ρ,
        (readSlot v l).2.2.rename ρ) := by
  unfold readSlot
  rw [Operand.isSlot_rename ρ hv]
  split
  · next hs => simp [Operand.slot_rename ρ hs, Instr.rename, Layout.rename]
  · rfl

theorem asOperand_rename {e : Expr} {l : Layout} (he : e.isStatement = true) (hl : l.Named)
    (hlow : lower (e.rename ρ) (l.rename ρ) = renameLowered ρ (lower e l)) :
    asOperand (e.rename ρ) (lower (e.rename ρ) (l.rename ρ)) =
      renameLowered ρ (asOperand e (lower e l)) := by
  rw [hlow]
  cases h : lower e l with
  | mk r l₁ =>
    cases r with
    | error err => rfl
    | ok cv =>
      obtain ⟨code, v⟩ := cv
      have hv := (named_lower he hl h).2
      simp only [renameLowered, renameOutcome, asOperand, Operand.isNone_rename ρ hv]
      split
      · rfl
      · simp only [readSlot_rename ρ hv, List.map_append]

theorem lower_rename {e : Expr} {l : Layout} (he : e.isValue = true) (hl : l.Named) :
    lower (e.rename ρ) (l.rename ρ) = renameLowered ρ (lower e l) := by
  induction e generalizing l with
  | hole => cases he
  | literal loc digits => simp [Expr.rename, lower, renameLowered, renameOutcome]
  | var loc name =>
    have hmem : ρ name ∈ (l.rename ρ).slots ↔ name ∈ l.slots := ρ.mem_map_iff he hl
    simp only [Expr.rename, lower, hmem]
    split
    · rfl
    · rfl
  | binary loc left op right ihl ihr =>
    simp only [Expr.isValue, Bool.and_eq_true] at he
    have hsl := Expr.isStatement_of_isValue he.1.1
    have hsr := Expr.isStatement_of_isValue he.2
    have hleft := asOperand_rename ρ hsl hl (ihl he.1.1 hl)
    simp only [Expr.rename, lower, hleft]
    cases h₁ : asOperand left (lower left l) with
    | mk r₁ l₁ =>
      cases r₁ with
      | error err => rfl
      | ok cv₁ =>
        have hl₁ := named_asOperand hsl hl h₁
        have hright := asOperand_rename ρ hsr hl₁ (ihr he.2 hl₁)
        simp only [renameLowered, renameOutcome] at hright ⊢
        simp only [hright]
        cases asOperand right (lower right l₁) with
        | mk r₂ l₂ =>
          cases r₂ with
          | error err => rfl
          | ok cv₂ =>
            cases op with
            | unassigned n => rfl
            | known o => simp [Instr.rename, Layout.rename]
  | assign loc name value ih =>
    simp only [Expr.isValue, Bool.and_eq_true] at he
    have hs := Expr.isStatement_of_isValue he.2
    have hvalue := asOperand_rename ρ hs hl (ih he.2 hl)
    simp only [Expr.rename, lower, hvalue]
    cases h₁ : asOperand value (lower value l) with
    | mk r l₁ =>
      cases r with
      | error err => rfl
      | ok cv =>
        have hmem : ρ name ∈ (l₁.rename ρ).slots ↔ name ∈ l₁.slots :=
          ρ.mem_map_iff he.1 (named_asOperand hs hl h₁)
        simp only [renameLowered, renameOutcome, hmem]
        split
        · simp [Instr.rename, Operand.rename_ofSlot ρ he.1]
        · simp [Instr.rename, Operand.rename_ofSlot ρ he.1, Layout.rename]
  | ret => cases he
  | group loc inner ih => exact ih he hl

theorem lower_statement_rename {s : Expr} {l : Layout} (hs : s.isStatement = true)
    (hl : l.Named) : lower (s.rename ρ) (l.rename ρ) = renameLowered ρ (lower s l) := by
  cases s with
  | ret loc value =>
    have hv : value.isValue = true := hs
    have hvalue := asOperand_rename ρ (Expr.isStatement_of_isValue hv) hl (lower_rename ρ hv hl)
    simp only [Expr.rename, lower, hvalue]
    cases asOperand value (lower value l) with
    | mk r l₁ =>
      cases r with
      | error err => rfl
      | ok cv => simp [renameLowered, renameOutcome, Instr.rename]
  | _ => exact lower_rename ρ hs hl

theorem lowerAll_rename (i : Nat) (last : Operand) {p : List Expr} {l : Layout}
    (hp : ∀ s ∈ p, s.isStatement = true) (hl : l.Named) :
    lowerAll i (last.rename ρ) (p.map (Expr.rename ρ)) (l.rename ρ) =
      renameOutcome ρ (GenerateError.rename ρ) (Body.rename ρ) (lowerAll i last p l) := by
  induction p generalizing i last l with
  | nil => rfl
  | cons s rest ih =>
    have hs := hp s (List.mem_cons_self ..)
    have hrest : ∀ t ∈ rest, t.isStatement = true := fun t ht => hp t (List.mem_cons_of_mem _ ht)
    have hloc : (s.rename ρ).loc? = s.loc? := by cases s <;> rfl
    have hret : (s.rename ρ).isReturn = s.isReturn := by cases s <;> rfl
    simp only [List.map_cons, lowerAll, lower_statement_rename ρ hs hl, hloc, hret,
      List.length_map]
    cases hlow : lower s l with
    | mk r l₁ =>
      cases r with
      | error err => rfl
      | ok cv =>
        obtain ⟨code, v⟩ := cv
        have hl₁ := (named_lower hs hl hlow).1
        simp only [renameLowered, renameOutcome]
        split
        · rfl
        · rw [ih (i + 1) v hrest hl₁]
          cases lowerAll (i + 1) v rest l₁ with
          | mk r l₂ => cases r <;> simp [renameOutcome, Body.rename]

theorem generate_rename {p : Program} (hp : ∀ s ∈ p, s.isStatement = true) (name : String) :
    generate (p.rename ρ) name =
      renameOutcome ρ (GenerateError.rename ρ) (Generated.rename ρ) (generate p name) := by
  have hinit : Layout.initial.Named := by simp [Layout.Named, Layout.initial]
  have hzero : (Operand.ofImmediate "0").Named := by
    simp [Operand.Named, Operand.isSlot, Operand.ofImmediate]
  have hall : lowerAll 1 (.ofImmediate "0") (p.rename ρ) .initial = _ :=
    lowerAll_rename ρ 1 (.ofImmediate "0") hp hinit
  unfold generate
  rw [hall]
  cases h : lowerAll 1 (.ofImmediate "0") p .initial with
  | mk r l =>
    cases r with
    | error err => rfl
    | ok body =>
      have hvalue := named_lowerAll hp hzero hinit h
      simp only [renameOutcome, Body.rename, readSlot_rename ρ hvalue]
      split
      · rfl
      · simp [Generated.rename, Function.rename, Instr.rename, Layout.rename]

end

end ArithCompiler
