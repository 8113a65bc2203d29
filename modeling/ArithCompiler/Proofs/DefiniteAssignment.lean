import ArithCompiler.Proofs.Unassigned
import Mathlib.Control.Monad.Basic

/-!
# Definite assignment

Whether a program can be lowered is decided by the order in which its variables and
assignments come when the trees are walked in post order, up to the first return
(`occurrences`). A variable is fine if an assignment to its name is complete before it.
If all are, there is code; if not, the error is that of the first one that is not
(`generate_eq_error_iff_unassigned`).
-/

namespace ArithCompiler

/-- What a walk over the trees of a program comes by. -/
inductive Occurrence where
  /-- A variable in the statement of that number. -/
  | read (statement : Nat) (name : String) (loc : Location)
  /-- The end of an assignment. -/
  | assigned (name : String)
deriving DecidableEq, Repr

/-- The occurrences in a tree of statement `k`, in post order: a name is assigned
after its value has been walked. -/
def Expr.occurrences (k : Nat) : Expr → List Occurrence
  | .hole | .literal _ _ => []
  | .var loc name => [.read k name loc]
  | .binary _ left _ right => left.occurrences k ++ right.occurrences k
  | .assign _ name value => value.occurrences k ++ [.assigned name]
  | .ret _ value => value.occurrences k
  | .group _ inner => inner.occurrences k

/-- The occurrences in statements up to the first return. The first statement has
number `k`. -/
def occurrences (k : Nat) (p : List Expr) : List Occurrence :=
  ((upToReturn p).zipIdx k).flatMap fun s => s.1.occurrences s.2

/-- Every name that is read is one of `names` or assigned before. -/
def AllAssigned (names : List String) (os : List Occurrence) : Prop :=
  ∀ before k x loc after, os = before ++ .read k x loc :: after →
    x ∈ names ∨ .assigned x ∈ before

/-- The first name read that is neither one of `names` nor assigned before. -/
def FirstUnassigned (names : List String) (os : List Occurrence) (k : Nat) (x : String)
    (loc : Location) : Prop :=
  ∃ before after, os = before ++ .read k x loc :: after ∧ AllAssigned names before ∧
    x ∉ names ∧ .assigned x ∉ before

/-! ### Sequences of occurrences -/

theorem mem_occurrences_assigned (e : Expr) (k : Nat) (x : String) :
    .assigned x ∈ e.occurrences k ↔ x ∈ e.assigned := by
  induction e with
  | hole | literal | var => simp [Expr.occurrences, Expr.assigned]
  | binary loc left op right ihl ihr =>
    simp only [Expr.occurrences, Expr.assigned, List.mem_append, ihl, ihr]
  | assign loc name value ih => simp [Expr.occurrences, Expr.assigned, ih]
  | ret loc value ih => exact ih
  | group loc inner ih => exact ih

theorem occurrences_cons (k : Nat) (s : Expr) (rest : List Expr) :
    occurrences k (s :: rest) =
      s.occurrences k ++ if s.isReturn then [] else occurrences (k + 1) rest := by
  by_cases hs : s.isReturn = true
  · simp [occurrences, upToReturn, hs]
  · simp [occurrences, upToReturn, hs]

theorem allAssigned_of_no_read {names : List String} {os : List Occurrence}
    (h : ∀ k x loc, .read k x loc ∉ os) : AllAssigned names os := by
  rintro before k x loc after rfl
  exact absurd (List.mem_append_right before (List.mem_cons_self ..)) (h k x loc)

theorem allAssigned_read {names : List String} {x : String} (k : Nat) (loc : Location)
    (hx : x ∈ names) : AllAssigned names [.read k x loc] := by
  intro before k' y loc' after hos
  cases before with
  | nil =>
    obtain ⟨hread, _⟩ := List.cons.inj hos
    obtain ⟨_, rfl, _⟩ := Occurrence.read.inj hread
    exact .inl hx
  | cons o before => simp at hos

/-- Where a sequence is cut: a read in two parts is in the first or in the second. -/
theorem AllAssigned.append {names names' : List String} {a b : List Occurrence}
    (ha : AllAssigned names a) (hb : AllAssigned names' b)
    (hn : ∀ x, x ∈ names' ↔ x ∈ names ∨ .assigned x ∈ a) : AllAssigned names (a ++ b) := by
  intro before k x loc after hos
  rcases List.append_eq_append_iff.mp hos with ⟨c, rfl, hb'⟩ | ⟨c, ha', hread⟩
  · -- the read is in `b`, after `c`
    rcases hb c k x loc after hb' with hx | hx
    · rcases (hn x).mp hx with hx | hx
      · exact .inl hx
      · exact .inr (List.mem_append_left _ hx)
    · exact .inr (List.mem_append_right _ hx)
  · cases c with
    | nil =>
      simp only [List.append_nil] at ha'
      subst ha'
      rcases hb [] k x loc after (by simpa using hread.symm) with hx | hx
      · exact (hn x).mp hx
      · cases hx
    | cons o c =>
      obtain ⟨rfl, rfl⟩ := List.cons.inj hread
      exact ha before k x loc c ha'

theorem FirstUnassigned.append_left {names : List String} {a : List Occurrence} {k : Nat}
    {x : String} {loc : Location} (h : FirstUnassigned names a k x loc) (b : List Occurrence) :
    FirstUnassigned names (a ++ b) k x loc := by
  obtain ⟨before, after, rfl, hbefore⟩ := h
  exact ⟨before, after ++ b, by simp, hbefore⟩

theorem FirstUnassigned.append_right {names names' : List String} {a b : List Occurrence}
    {k : Nat} {x : String} {loc : Location} (ha : AllAssigned names a)
    (hb : FirstUnassigned names' b k x loc)
    (hn : ∀ x, x ∈ names' ↔ x ∈ names ∨ .assigned x ∈ a) :
    FirstUnassigned names (a ++ b) k x loc := by
  obtain ⟨before, after, rfl, hbefore, hx, hx'⟩ := hb
  rw [hn x, not_or] at hx
  refine ⟨a ++ before, after, by simp, ha.append hbefore hn, hx.1, ?_⟩
  simp only [List.mem_append, not_or]
  exact ⟨hx.2, hx'⟩

theorem FirstUnassigned.unique {names : List String} {os : List Occurrence} {k k' : Nat}
    {x x' : String} {loc loc' : Location} (h : FirstUnassigned names os k x loc)
    (h' : FirstUnassigned names os k' x' loc') : k = k' ∧ x = x' ∧ loc = loc' := by
  obtain ⟨before, after, rfl, hall, hx, hb⟩ := h
  obtain ⟨before', after', heq, hall', hx', hb'⟩ := h'
  rcases List.append_eq_append_iff.mp heq with ⟨c, rfl, hc⟩ | ⟨c, rfl, hc⟩
  · cases c with
    | nil =>
      obtain ⟨hread, _⟩ := List.cons.inj hc
      exact Occurrence.read.inj hread
    | cons o c =>
      -- the read of `x` would come before that of `x'`
      obtain ⟨rfl, _⟩ := List.cons.inj hc
      exact ((hall' before k x loc c rfl).elim hx hb).elim
  · cases c with
    | nil =>
      obtain ⟨hread, _⟩ := List.cons.inj hc
      exact Occurrence.read.inj hread.symm
    | cons o c =>
      obtain ⟨rfl, _⟩ := List.cons.inj hc
      exact ((hall before' k' x' loc' c rfl).elim hx' hb').elim

theorem FirstUnassigned.not_allAssigned {names : List String} {os : List Occurrence} {k : Nat}
    {x : String} {loc : Location} (h : FirstUnassigned names os k x loc) :
    ¬ AllAssigned names os := by
  obtain ⟨before, after, hos, _, hx, hb⟩ := h
  exact fun hall => (hall before k x loc after hos).elim hx hb

/-! ### Trees -/

/-- An outcome of lowering a tree is the one that its occurrences call for. -/
def Decided {α : Type} (names : List String) (os : List Occurrence) (k : Nat) :
    Except LoweringError α → Prop
  | .ok _ => AllAssigned names os
  | .error err => ∃ x loc, err = .unassigned x loc ∧ FirstUnassigned names os k x loc

theorem decided_asOperand {e : Expr} {l : Layout} {os : List Occurrence} {k : Nat}
    (he : e.isValue = true) (hl : 0 < l.next) (h : Decided l.slots os k (lower e l).1) :
    Decided l.slots os k (asOperand e (lower e l)).1 := by
  cases hop : asOperand e (lower e l) with
  | mk r l' =>
    cases r with
    | error err =>
      rw [asOperand_eq_error he hl hop] at h
      exact h
    | ok cv =>
      obtain ⟨code₀, v, l₀, hlow, _⟩ := asOperand_eq_ok hop
      rw [hlow] at h
      exact h

theorem mem_slots_operand {e : Expr} {l l' : Layout} {code : List Instr} {w : Operand}
    (k : Nat) (h : asOperand e (lower e l) = (.ok (code, w), l')) (x : String) :
    x ∈ l'.slots ↔ x ∈ l.slots ∨ .assigned x ∈ e.occurrences k := by
  rw [mem_occurrences_assigned]
  exact mem_slots_asOperand (mem_slots_lower x) h

theorem decided_lower {e : Expr} {l : Layout} (k : Nat) (he : e.isValue = true)
    (hl : 0 < l.next) : Decided l.slots (e.occurrences k) k (lower e l).1 := by
  induction e generalizing l with
  | hole => cases he
  | ret => cases he
  | literal loc digits => exact allAssigned_of_no_read (by simp [Expr.occurrences])
  | var loc name =>
    by_cases hn : name ∈ l.slots
    · simp only [lower, hn, ite_true]
      exact allAssigned_read k loc hn
    · simp only [lower, hn, ite_false]
      exact ⟨name, loc, rfl, [], [], rfl, allAssigned_of_no_read (by simp), hn, by simp⟩
  | binary loc left op right ihl ihr =>
    simp only [Expr.isValue, Bool.and_eq_true] at he
    obtain ⟨⟨hleft, hop⟩, hright⟩ := he
    have hdleft := decided_asOperand hleft hl (ihl hleft hl)
    rw [lower, Expr.occurrences]
    split
    · next err₁ l₁ h₁ =>
      rw [h₁] at hdleft
      obtain ⟨x, loc', rfl, hfirst⟩ := hdleft
      exact ⟨x, loc', rfl, hfirst.append_left _⟩
    · next code₁ v₁ l₁ h₁ =>
      rw [h₁] at hdleft
      have hl₁ := (straight_asOperand hl (straight_lower hleft hl) h₁).1.next_pos hl
      have hdright := decided_asOperand hright hl₁ (ihr hright hl₁)
      have hslots := mem_slots_operand k h₁
      split
      · next err₂ l₂ h₂ =>
        rw [h₂] at hdright
        obtain ⟨x, loc', rfl, hfirst⟩ := hdright
        exact ⟨x, loc', rfl, hfirst.append_right hdleft hslots⟩
      · next code₂ v₂ l₂ h₂ =>
        rw [h₂] at hdright
        cases op with
        | known o => exact hdleft.append hdright hslots
        | unassigned n => cases hop
  | assign loc name value ih =>
    simp only [Expr.isValue, Bool.and_eq_true] at he
    have hdvalue := decided_asOperand he.2 hl (ih he.2 hl)
    rw [lower, Expr.occurrences]
    split
    · next err₁ l₁ h₁ =>
      rw [h₁] at hdvalue
      obtain ⟨x, loc', rfl, hfirst⟩ := hdvalue
      exact ⟨x, loc', rfl, hfirst.append_left _⟩
    · next code v l₁ h₁ =>
      rw [h₁] at hdvalue
      have hall : AllAssigned l.slots (value.occurrences k ++ [.assigned name]) :=
        hdvalue.append (allAssigned_of_no_read (by simp)) (mem_slots_operand k h₁)
      split <;> exact hall
  | group loc inner ih => exact ih he hl

theorem decided_lower_statement {s : Expr} {l : Layout} (k : Nat) (hs : s.isStatement = true)
    (hl : 0 < l.next) : Decided l.slots (s.occurrences k) k (lower s l).1 := by
  cases s with
  | ret loc value =>
    have hv : value.isValue = true := hs
    have hdvalue := decided_asOperand hv hl (decided_lower k hv hl)
    rw [lower, Expr.occurrences]
    split
    · next h₁ => rwa [h₁] at hdvalue
    · next h₁ => rwa [h₁] at hdvalue
  | _ => exact decided_lower k (Expr.isValue_of_isStatement hs rfl) hl

/-! ### Programs -/

/-- An error for statements, the first of which has number `k`: it names one of them and
the first variable that is not assigned. -/
structure GenerateError.Reports (err : GenerateError) (names : List String) (k : Nat)
    (p : List Expr) : Prop where
  statement : ∃ n s, err.statement = k + n ∧ p[n]? = some s ∧ err.loc = s.loc?
  cause : ∃ x loc, err.cause = .unassigned x loc ∧
    FirstUnassigned names (occurrences k p) err.statement x loc

theorem GenerateError.Reports.cons {err : GenerateError} {names names' : List String} {k : Nat}
    {s : Expr} {rest : List Expr} (h : err.Reports names' (k + 1) rest)
    (hr : s.isReturn = false) (hs : AllAssigned names (s.occurrences k))
    (hn : ∀ x, x ∈ names' ↔ x ∈ names ∨ .assigned x ∈ s.occurrences k) :
    err.Reports names k (s :: rest) := by
  obtain ⟨⟨n, t, hstatement, ht, hloc⟩, x, loc, hcause, hfirst⟩ := h
  refine ⟨⟨n + 1, t, by omega, ht, hloc⟩, x, loc, hcause, ?_⟩
  rw [occurrences_cons, if_neg (by simp [hr])]
  exact hfirst.append_right hs hn

theorem lowerAll_decided (k : Nat) (last : Operand) {p : List Expr} {l : Layout}
    (hp : ∀ s ∈ p, s.isStatement = true) (hl : 0 < l.next) :
    match (lowerAll k last p l).1 with
    | .ok _ => AllAssigned l.slots (occurrences k p)
    | .error err => err.Reports l.slots k p := by
  induction p generalizing k last l with
  | nil => exact allAssigned_of_no_read (by simp [occurrences, upToReturn])
  | cons s rest ih =>
    have hs := hp s (List.mem_cons_self ..)
    have hdecided := decided_lower_statement k hs hl
    rw [lowerAll]
    cases h₁ : lower s l with
    | mk r l₁ =>
      rw [h₁] at hdecided
      cases r with
      | error err =>
        obtain ⟨x, loc, rfl, hfirst⟩ := hdecided
        refine ⟨⟨0, s, rfl, rfl, rfl⟩, x, loc, rfl, ?_⟩
        rw [occurrences_cons]
        exact hfirst.append_left _
      | ok cv =>
        obtain ⟨code, v⟩ := cv
        have hs' : AllAssigned l.slots (s.occurrences k) := hdecided
        by_cases hr : s.isReturn = true
        · simpa only [hr, ite_true, occurrences_cons, List.append_nil] using hs'
        · have hval := Expr.isValue_of_isStatement hs (by simpa using hr)
          have hl₁ := (straight_lower hval hl h₁).1.next_pos hl
          have hslots : ∀ x, x ∈ l₁.slots ↔ x ∈ l.slots ∨ .assigned x ∈ s.occurrences k := by
            intro x
            rw [mem_occurrences_assigned]
            exact mem_slots_lower x h₁
          have hrest := ih (k + 1) v (fun t ht => hp t (List.mem_cons_of_mem _ ht)) hl₁
          simp only [hr, Bool.false_eq_true, ite_false]
          cases h₂ : lowerAll (k + 1) v rest l₁ with
          | mk r₂ l₂ =>
            rw [h₂] at hrest
            cases r₂ with
            | error err => exact hrest.cons (by simpa using hr) hs' hslots
            | ok body =>
              have hall : AllAssigned l₁.slots (occurrences (k + 1) rest) := hrest
              rw [occurrences_cons, if_neg hr]
              exact hs'.append hall hslots

theorem generate_decided {p : Program} (name : String) (hp : ∀ s ∈ p, s.isStatement = true) :
    match (generate p name).1 with
    | .ok _ => AllAssigned [] (occurrences 1 p)
    | .error err => err.Reports [] 1 p := by
  have hdecided := lowerAll_decided 1 (.ofImmediate "0") hp (show 0 < Layout.initial.next by decide)
  unfold generate
  cases hall : lowerAll 1 (.ofImmediate "0") p .initial with
  | mk r l =>
    rw [hall] at hdecided
    cases r with
    | error err => exact hdecided
    | ok body =>
      have hassigned : AllAssigned [] (occurrences 1 p) := hdecided
      by_cases hr : body.returned = true
      · simpa only [hr, ite_true] using hassigned
      · simpa only [hr, Bool.false_eq_true, ite_false] using hassigned

theorem message_unassigned (k : Nat) (place : Location) (x : String) (loc : Location) :
    (⟨k, some place, .unassigned x loc⟩ : GenerateError).message =
      "statement " ++ toString k ++ " at " ++ place.render ++ ": " ++
        (x ++ " at " ++ loc.render ++ ": variable read before assignment") := by
  unfold GenerateError.message
  rfl

theorem exists_loc_of_isStatement {s : Expr} (h : s.isStatement = true) :
    ∃ place, s.loc? = some place := by
  cases s with
  | hole => cases h
  | _ => exact ⟨_, rfl⟩

/-- A program that was built from a text has no code if and only if some variable comes
before the first assignment to its name is complete. The error then names the first such
variable and its place, and the number and the place of its statement. -/
theorem generate_eq_error_iff_unassigned {source : List UInt8} {ls : List Lexeme}
    {events : List BuildEvent} {p : Program} (hscan : tokenize source = .ok ls)
    (hbuild : build ls = (events, .ok p)) (name : String) :
    ((∃ err, (generate p name).1 = .error err) ↔
        ∃ before k x loc after, occurrences 1 p = before ++ .read k x loc :: after ∧
          .assigned x ∉ before) ∧
      ∀ err, (generate p name).1 = .error err ↔
        ∃ k x loc s place, FirstUnassigned [] (occurrences 1 p) k x loc ∧
          p[k - 1]? = some s ∧ s.loc? = some place ∧
          err = ⟨k, some place, .unassigned x loc⟩ ∧
          err.message = "statement " ++ toString k ++ " at " ++ place.render ++ ": " ++
            (x ++ " at " ++ loc.render ++ ": variable read before assignment") := by
  have hp := isStatement_of_build hscan hbuild
  have hdecided := generate_decided name hp
  cases hgen : (generate p name).1 with
  | ok g =>
    rw [hgen] at hdecided
    have hall : AllAssigned [] (occurrences 1 p) := hdecided
    refine ⟨⟨?_, ?_⟩, fun err => ⟨?_, ?_⟩⟩
    · rintro ⟨err, h⟩
      cases h
    · rintro ⟨before, k, x, loc, after, hos, hx⟩
      exact absurd (hall before k x loc after hos) (by simp [hx])
    · intro h
      cases h
    · rintro ⟨k, x, loc, s, place, hfirst, _⟩
      exact absurd hall hfirst.not_allAssigned
  | error err =>
    rw [hgen] at hdecided
    obtain ⟨⟨n, s, hstatement, hs, hloc⟩, x, loc, hcause, hfirst⟩ := hdecided
    obtain ⟨place, hplace⟩ := exists_loc_of_isStatement (hp s (List.mem_of_getElem? hs))
    have herr : err = ⟨1 + n, some place, .unassigned x loc⟩ := by
      cases err
      simp only [GenerateError.mk.injEq]
      exact ⟨hstatement, hloc.trans hplace, hcause⟩
    subst herr
    have hs' : p[1 + n - 1]? = some s := by rwa [Nat.add_sub_cancel_left]
    refine ⟨⟨fun _ => ?_, fun _ => ⟨_, rfl⟩⟩, fun err => ⟨?_, ?_⟩⟩
    · obtain ⟨before, after, hos, _, _, hx⟩ := hfirst
      exact ⟨before, 1 + n, x, loc, after, hos, hx⟩
    · rintro ⟨⟩
      exact ⟨1 + n, x, loc, s, place, hfirst, hs', hplace, rfl, message_unassigned ..⟩
    · -- there is only one first variable, so the error is the one of lowering
      rintro ⟨k, y, loc', t, place', hfirst', ht, hplace', rfl, _⟩
      obtain ⟨rfl, rfl, rfl⟩ := hfirst.unique hfirst'
      obtain rfl := Option.some.inj (hs'.symm.trans ht)
      obtain rfl := Option.some.inj (hplace.symm.trans hplace')
      rfl

/-- The trees of `a = (a = 1) + a; b = a * (c - (c = 2)); return d; e`: `c` is assigned too
late, `d` is not, and `e` is not walked. -/
def lateAssigning : Program :=
  [.assign ⟨1, 3⟩ "a" (.binary ⟨1, 13⟩
      (.group ⟨1, 5⟩ (.assign ⟨1, 8⟩ "a" (.literal ⟨1, 10⟩ "1"))) (.known .add)
      (.var ⟨1, 15⟩ "a")),
    .assign ⟨1, 20⟩ "b" (.binary ⟨1, 24⟩ (.var ⟨1, 22⟩ "a") (.known .mul)
      (.group ⟨1, 26⟩ (.binary ⟨1, 29⟩ (.var ⟨1, 27⟩ "c") (.known .sub)
        (.group ⟨1, 31⟩ (.assign ⟨1, 34⟩ "c" (.literal ⟨1, 36⟩ "2")))))),
    .ret ⟨1, 41⟩ (.var ⟨1, 48⟩ "d"),
    .var ⟨1, 51⟩ "e"]

theorem generate_eq_error_iff_unassigned_late :
    ∃ ls events, tokenize (Text.encode "a = (a = 1) + a; b = a * (c - (c = 2)); return d; e") =
        .ok ls ∧
      build ls = (events, .ok lateAssigning) ∧
      (generate lateAssigning "main").1 = .error ⟨2, some ⟨1, 20⟩, .unassigned "c" ⟨1, 27⟩⟩ ∧
      FirstUnassigned [] (occurrences 1 lateAssigning) 2 "c" ⟨1, 27⟩ := by
  have hscan := tokenize_eq
    (Text.encode "a = (a = 1) + a; b = a * (c - (c = 2)); return d; e")
  have hbuild : ∃ events, build (scanned .start (Text.trim (Text.decode (Text.encode
      "a = (a = 1) + a; b = a * (c - (c = 2)); return d; e")))) = (events, .ok lateAssigning) :=
    ⟨_, Prod.ext rfl (by decide +kernel)⟩
  obtain ⟨events, hbuild⟩ := hbuild
  have hgen : (generate lateAssigning "main").1 =
      .error ⟨2, some ⟨1, 20⟩, .unassigned "c" ⟨1, 27⟩⟩ := by
    decide +kernel
  refine ⟨_, _, hscan, hbuild, hgen, ?_⟩
  obtain ⟨k, x, loc, s, place, hfirst, _, _, herr, _⟩ :=
    ((generate_eq_error_iff_unassigned hscan hbuild "main").2 _).mp hgen
  cases herr
  exact hfirst

end ArithCompiler
