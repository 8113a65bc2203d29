import ArithCompiler.Proofs.Lowering
import ArithCompiler.Proofs.Regrouping

/-!
# Implicit and explicit returns

Without a return a function returns the value of the last statement. This is the code that an
explicit return of that statement has (`generate_concat_ret`). Nothing after a return has code,
so that statements after it can be anything (`generate_append_of_return`). Both follow from how
lowering goes on from some statements to the next ones (`lowerAll_append`).
-/

namespace ArithCompiler

/-! ### Statements in a row -/

/-- Goes on with more statements, the first of which has number `i`, after some that were
lowered. There is no more code after a return. -/
def lowerOn (i : Nat) (more : List Expr) :
    Except GenerateError Body × Layout → Except GenerateError Body × Layout
  | (.error err, l) => (.error err, l)
  | (.ok body, l) =>
    if body.returned then (.ok { body with skipped := body.skipped + more.length }, l)
    else
      match lowerAll i body.value more l with
      | (.error err, l') => (.error err, l')
      | (.ok rest, l') => (.ok { rest with code := body.code ++ rest.code }, l')

theorem lowerAll_append (i : Nat) (last : Operand) (p more : List Expr) (l : Layout) :
    lowerAll i last (p ++ more) l = lowerOn (i + p.length) more (lowerAll i last p l) := by
  induction p generalizing i last l with
  | nil =>
    simp only [List.nil_append, lowerAll, lowerOn, List.length_nil, Nat.add_zero]
    cases lowerAll i last more l with
    | mk r l' => cases r <;> rfl
  | cons s p ih =>
    have hnext : i + (s :: p).length = i + 1 + p.length := by
      simp only [List.length_cons]
      omega
    simp only [List.cons_append, lowerAll, hnext]
    cases lower s l with
    | mk r l₁ =>
      cases r with
      | error err => rfl
      | ok cv =>
        obtain ⟨code, v⟩ := cv
        by_cases hs : s.isReturn = true
        · simp [hs, lowerOn]
        · simp only [hs, Bool.false_eq_true, ite_false, ih]
          cases lowerAll (i + 1) v p l₁ with
          | mk r l₂ =>
            cases r with
            | error err => rfl
            | ok body =>
              by_cases hb : body.returned = true
              · simp [lowerOn, hb]
              · simp only [lowerOn, hb, Bool.false_eq_true, ite_false]
                cases lowerAll (i + 1 + p.length) body.value more l₂ with
                | mk r l₃ => cases r <;> simp

theorem returned_lowerAll {i : Nat} {last : Operand} {p : List Expr} {l l' : Layout} {body : Body}
    (h : lowerAll i last p l = (.ok body, l')) : body.returned = p.any Expr.isReturn := by
  induction p generalizing i last l body with
  | nil =>
    cases h
    rfl
  | cons s rest ih =>
    obtain ⟨code, v, l₁, _, hcase⟩ := lowerAll_cons_eq_ok h
    rcases hcase with ⟨hs, rfl, rfl⟩ | ⟨hs, body', hrest, rfl⟩
    · simp [hs]
    · simp [hs, ih hrest]

/-! ### After a return -/

theorem generate_append_of_return {p : Program} (hp : p.any Expr.isReturn = true) (more : Program)
    (name : String) :
    (generate (p ++ more) name).1.map Generated.function =
      (generate p name).1.map Generated.function := by
  unfold generate
  rw [lowerAll_append]
  cases hall : lowerAll 1 (.ofImmediate "0") p .initial with
  | mk r l =>
    cases r with
    | error err => rfl
    | ok body =>
      have hr : body.returned = true := (returned_lowerAll hall).trans hp
      simp only [lowerOn, hr, ite_true]
      rfl

/-! ### At the end -/

theorem lower_ret_of_held {x : Expr} {l l₁ : Layout} {code : List Instr} {v : Operand}
    (h : lower x l = (.ok (code, v), l₁)) (hv : v.Held l₁) (loc : Location) :
    lower (.ret loc x) l =
      (.ok (code ++ (readSlot v l₁).1 ++ [.ret (readSlot v l₁).2.1], .none),
        (readSlot v l₁).2.2) := by
  simp [lower, asOperand, h, Operand.isNone_of_held hv]

theorem generate_concat_ret {p : Program} {e x : Expr} (hp : ∀ s ∈ p, s.isStatement = true)
    (he : e.isValue = true) (hx : ∀ l, lower x l = lower e l) (loc : Location) (name : String) :
    Agree (fun err : GenerateError => (err.statement, err.cause))
      (generate (p ++ [e]) name) (generate (p ++ [.ret loc x]) name) := by
  have her : e.isReturn = false := by
    cases e with
    | ret => cases he
    | _ => rfl
  have hinit : 0 < Layout.initial.next := by decide
  unfold generate
  rw [lowerAll_append, lowerAll_append]
  cases hall : lowerAll 1 (.ofImmediate "0") p .initial with
  | mk r l =>
    cases r with
    | error err => exact .error rfl l
    | ok body =>
      have hbody := straight_lowerAll hp hinit (.usable (.immediate (by decide))) hall
      by_cases hr : body.returned = true
      · -- both last statements are left out
        simp only [lowerOn, hr, ite_true]
        exact .ok _ l
      · rw [if_neg hr] at hbody
        have hl : 0 < l.next := hbody.1.next_pos hinit
        simp only [lowerOn, hr, lowerAll, her, Bool.false_eq_true, ite_false]
        cases hlow : lower e l with
        | mk res l₁ =>
          cases res with
          | error err =>
            have hret : lower (.ret loc x) l = (.error err, l₁) := by
              simp [lower, asOperand, hx, hlow]
            simp only [hret]
            exact .error (by rfl) l₁
          | ok cv =>
            obtain ⟨code, v⟩ := cv
            have hv := (straight_lower he hl hlow).2
            have hret := lower_ret_of_held ((hx l).trans hlow) hv loc
            simp only [hret, Expr.isReturn, ite_true, List.append_nil, Bool.false_eq_true,
              ite_false, List.append_assoc]
            exact .ok _ _

/-- A program that was built from a text and does not end with a return has the same function
as with an explicit return of its last statement, in parentheses or not, and has none if that
program has none. What follows a return at the end of any program changes neither its function
nor its error. -/
theorem generate_returning (name : String) :
    (∀ {source : List UInt8} {ls : List Lexeme} {events : List BuildEvent} {p : Program} {e : Expr},
      tokenize source = .ok ls → build ls = (events, .ok (p ++ [e])) → e.isReturn = false →
      ∀ (loc loc' : Location) (g : Generated),
        ((generate (p ++ [e]) name).1 = .ok g ↔
          (generate (p ++ [.ret loc e]) name).1 = .ok g) ∧
        ((generate (p ++ [e]) name).1 = .ok g ↔
          (generate (p ++ [.ret loc (.group loc' e)]) name).1 = .ok g)) ∧
    ∀ (p : Program) (loc : Location) (value : Expr) (more : Program),
      (generate (p ++ .ret loc value :: more) name).1.map Generated.function =
        (generate (p ++ [.ret loc value]) name).1.map Generated.function := by
  constructor
  · intro source ls events p e hscan hbuild her loc loc' g
    have hall := isStatement_of_build hscan hbuild
    have hp : ∀ s ∈ p, s.isStatement = true := fun s hs => hall s (List.mem_append_left _ hs)
    have hlast : e.isStatement = true :=
      hall e (List.mem_append_right _ (List.mem_singleton.mpr rfl))
    have he : e.isValue = true := Expr.isValue_of_isStatement hlast her
    exact ⟨(generate_concat_ret hp he (fun _ => rfl) loc name).eq_ok_iff g,
      (generate_concat_ret hp he (x := .group loc' e) (fun _ => rfl) loc name).eq_ok_iff g⟩
  · intro p loc value more
    have hret : (p ++ [Expr.ret loc value]).any Expr.isReturn = true := by
      rw [List.any_append]
      exact Bool.or_true _
    have hafter := generate_append_of_return hret more name
    rwa [List.append_assoc] at hafter

/-- The first statement of `a = 2; b = a / 3`. -/
def assignedTwo : Expr := .assign ⟨1, 3⟩ "a" (.literal ⟨1, 5⟩ "2")

/-- The second one. -/
def assignedQuotient : Expr :=
  .assign ⟨1, 10⟩ "b"
    (.binary ⟨1, 14⟩ (.var ⟨1, 12⟩ "a") (.known .div) (.literal ⟨1, 16⟩ "3"))

def quotientCode : Generated :=
  ⟨⟨"main", [.alloca "a", .store (.ofImmediate "2") "a", .load 1 "a",
    .binary 2 "udiv" (.ofRegister 1) (.ofImmediate "3"), .alloca "b", .store (.ofRegister 2) "b",
    .load 3 "b", .ret (.ofRegister 3)], 3⟩, 0⟩

theorem generate_returning_quotient :
    (∃ ls events, tokenize (Text.encode "a = 2; b = a / 3") = .ok ls ∧
      build ls = (events, .ok ([assignedTwo] ++ [assignedQuotient]))) ∧
    (generate [assignedTwo, assignedQuotient] "main").1 = .ok quotientCode ∧
    (generate [assignedTwo, .ret ⟨1, 8⟩ (.group ⟨1, 15⟩ assignedQuotient)] "main").1 =
      .ok quotientCode ∧
    (generate [assignedTwo, .ret ⟨1, 8⟩ assignedQuotient, .hole, .var ⟨2, 1⟩ "c"] "main").1.map
      Generated.function = .ok quotientCode.function := by
  have hscan := tokenize_eq (Text.encode "a = 2; b = a / 3")
  have hbuild : ∃ events, build (scanned .start (Text.trim (Text.decode (Text.encode
      "a = 2; b = a / 3")))) = (events, .ok ([assignedTwo] ++ [assignedQuotient])) :=
    ⟨_, Prod.ext rfl (by decide +kernel)⟩
  obtain ⟨events, hbuild⟩ := hbuild
  have hgen : (generate [assignedTwo, assignedQuotient] "main").1 = .ok quotientCode := by
    decide +kernel
  have hboth := (generate_returning "main").1 hscan hbuild rfl ⟨1, 8⟩ ⟨1, 15⟩ quotientCode
  have hmore := (generate_returning "main").2 [assignedTwo] ⟨1, 8⟩ assignedQuotient
    [.hole, .var ⟨2, 1⟩ "c"]
  refine ⟨⟨_, events, hscan, hbuild⟩, hgen, hboth.2.mp hgen, hmore.trans ?_⟩
  exact congrArg (Except.map Generated.function) (hboth.1.mp hgen)

end ArithCompiler
