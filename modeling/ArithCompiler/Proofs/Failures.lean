import ArithCompiler.Proofs.Calls
import ArithCompiler.Proofs.Refusals
import ArithCompiler.Proofs.Unassigned
import ArithCompiler.Proofs.WellFormedCode

/-!
# How compiling fails

Scanning a text never fails. Building its lexemes can, and lowering the program can,
but only because of a variable that is read before it is assigned. All else that
could go wrong does not occur for a text: no tree has an operator without a rank, no
instruction uses an operand without a text, and the builder takes no lexeme for the
end of the input, for one of an unknown kind or for an unknown keyword.
-/

namespace ArithCompiler

/-! ### Operators of trees -/

namespace Expr

/-- The operators of a tree, from left to right. -/
def operators : Expr → List OpCode
  | .hole | .literal _ _ | .var _ _ => []
  | .binary _ left op right => left.operators ++ op :: right.operators
  | .assign _ _ value => value.operators
  | .ret _ value => value.operators
  | .group _ inner => inner.operators

/-- All operators of the tree have a rank. -/
def Ranked (e : Expr) : Prop := ∀ c ∈ e.operators, c.rank?.isSome = true

theorem ranked_of_isValue {e : Expr} (h : e.isValue = true) : e.Ranked := by
  induction e with
  | hole => cases h
  | literal | var => simp [Ranked, operators]
  | binary loc left op right ihl ihr =>
    simp only [isValue, Bool.and_eq_true] at h
    obtain ⟨⟨hl, hop⟩, hr⟩ := h
    intro c hc
    simp only [operators, List.mem_append, List.mem_cons] at hc
    rcases hc with hc | rfl | hc
    · exact ihl hl c hc
    · exact hop
    · exact ihr hr c hc
  | assign loc name value ih =>
    simp only [isValue, Bool.and_eq_true] at h
    exact ih h.2
  | ret => cases h
  | group loc inner ih => exact ih h

end Expr

theorem Frame.ranked_fill {f : Frame} {e : Expr} (hf : f.isValue = true) (he : e.Ranked) :
    (f.fill e).Ranked := by
  cases f with
  | binary loc left op =>
    intro c hc
    simp only [fill, Expr.operators, List.mem_append, List.mem_cons] at hc
    rcases hc with hc | rfl | hc
    · exact Expr.ranked_of_isValue hf c hc
    · rfl
    · exact he c hc
  | assign loc name => exact he
  | ret loc => cases hf

namespace Draft

/-- A draft of values has all that holes and values have and that nodes around a tree keep. -/
theorem Holds.root_induction {P : Expr → Prop} {r : Option Location} {d : Draft} (h : d.Holds r)
    (hole : P .hole) (value : ∀ e, e.isValue = true → P e)
    (fill : ∀ f : Frame, f.isValue = true → ∀ e, P e → P (f.fill e))
    (ret : ∀ loc e, P e → P (.ret loc e)) : P d.root := by
  obtain ⟨s, hspine, hs⟩ := h.spine
  have hfocus : P (d.operand.getD .hole) := by
    cases ho : d.operand with
    | none => exact hole
    | some e => exact value e (h.operand e ho)
  have hplug : P (plug s (d.operand.getD .hole)) :=
    plug_induction hfocus fun f hf => fill f (hs f hf)
  rw [Draft.root, hspine, plug_append]
  cases r with
  | none => exact hplug
  | some loc => exact ret loc _ hplug

theorem Holds.ranked_root {r : Option Location} {d : Draft} (h : d.Holds r) : d.root.Ranked :=
  h.root_induction (by simp [Expr.Ranked, Expr.operators]) (fun _ => Expr.ranked_of_isValue)
    (fun _ hf _ => Frame.ranked_fill hf)
    -- a return around a tree adds no operator
    fun _ _ he => he

end Draft

namespace Builder

theorem Nested.holds_of_mem {d : Draft} {gs : List OpenGroup} (h : Nested d gs) :
    ∀ d' ∈ d :: gs.map (·.parent), ∃ r, d'.Holds r := by
  induction gs generalizing d with
  | nil =>
    intro d' hd
    obtain rfl := List.mem_singleton.mp hd
    exact h
  | cons g gs ih =>
    intro d' hd
    rcases List.mem_cons.mp hd with rfl | hd
    · exact ⟨none, h.1⟩
    · exact ih h.2 d' hd

theorem ranked_of_pushAll {ls : List Lexeme} {events : List BuildEvent} {b : Builder}
    (hls : ∀ l ∈ ls, l.isSpelled = true) (h : Builder.new.pushAll ls = (events, .ok b)) :
    ∀ d ∈ b.drafts, d.root.Ranked := by
  intro d hd
  obtain ⟨r, hr⟩ := (sound_new.pushAll hls h).drafts.holds_of_mem d hd
  exact hr.ranked_root

end Builder

/-! ### Texts of operands -/

theorem Operand.isSome_render_of_usable {l : Layout} {v : Operand} (h : v.Usable l) :
    v.render?.isSome = true := by
  cases h with
  | register h0 h1 => simp [render?, ofRegister, h0]
  | immediate hd => simp [render?, ofImmediate, Text.ne_empty_of_isNumeral hd]

/-- All operands that the function's instructions use have a text. -/
def Function.Printable (f : Function) : Prop :=
  ∀ i ∈ f.code, ∀ v ∈ i.values, v.render?.isSome = true

theorem printable_generate {p : Program} {name : String} {g : Generated} {l : Layout}
    (hp : ∀ s ∈ p, s.isStatement = true) (h : generate p name = (.ok g, l)) :
    g.function.Printable := by
  intro i hi v hv
  obtain ⟨l₁, husable⟩ := (returns_generate hp h).1.mem_usable hi v hv
  exact Operand.isSome_render_of_usable husable

/-! ### Outcomes -/

theorem compile_of_build_eq_error (o : Options) {source : List UInt8} {ls : List Lexeme}
    {events : List BuildEvent} {e : BuildError} (hs : tokenize source = .ok ls)
    (hb : build ls = (events, .error e)) : (compile o source).2 = .error (.build e) := by
  simp only [compile, parse, parseText, hs, hb]

theorem compile_of_generate_eq_error {o : Options} {source : List UInt8} {ls : List Lexeme}
    {events : List BuildEvent} {p : Program} {e : GenerateError} {l : Layout}
    (hs : tokenize source = .ok ls) (hb : build ls = (events, .ok p))
    (hg : generate p o.function = (.error e, l)) :
    (compile o source).2 = .error (.generate e) := by
  simp only [compile, parse, parseText, lowerProgram, hs, hb, hg]

/-- Compiling any text gives a function that can be printed, an error of building, or
a variable of the program that is read before it is assigned. Errors about the
structure are those of parentheses, and all trees on the way have known operators. -/
theorem compile_printable_or_error (o : Options) (source : List UInt8) :
    ∃ ls, tokenize source = .ok ls ∧
      (∀ before events b, before <+: ls → Builder.new.pushAll before = (events, .ok b) →
        ∀ d ∈ b.drafts, d.root.Ranked) ∧
      ((∃ c, (compile o source).2 = .ok c ∧ c.function.Printable) ∨
        (∃ events e, build ls = (events, .error e) ∧
          (compile o source).2 = .error (.build e) ∧
          (e.kind = .structural → Unbalanced ls e)) ∨
        ∃ events p e name loc, build ls = (events, .ok p) ∧
          (compile o source).2 = .error (.generate e) ∧
          e.cause = .unassigned name loc ∧ ∃ s ∈ p, (name, loc) ∈ s.vars) := by
  have hscan := tokenize_eq source
  have hls : ∀ l ∈ scanned .start (Text.trim (Text.decode source)), l.isSpelled = true :=
    fun l hl => isSpelled_of_mem_tokenize hscan hl
  refine ⟨_, hscan, ?_, ?_⟩
  · intro before events b hbefore hrun
    exact Builder.ranked_of_pushAll (fun l hl => hls l (hbefore.subset hl)) hrun
  cases hb : build (scanned .start (Text.trim (Text.decode source))) with
  | mk events r =>
    cases r with
    | error e =>
      exact .inr (.inl ⟨events, e, rfl, compile_of_build_eq_error o hscan hb,
        unbalanced_of_build hls hb⟩)
    | ok p =>
      have hp := isStatement_of_build hscan hb
      cases hg : generate p o.function with
      | mk g l =>
        cases g with
        | ok g =>
          have hok : (compile o source).2 = .ok ⟨p, g.function⟩ :=
            compile_eq_ok.mpr ⟨_, events, g, l, hscan, hb, hg, rfl⟩
          exact .inl ⟨_, hok, printable_generate hp hg⟩
        | error e =>
          obtain ⟨s, hs, name, loc, hcause, hvar⟩ := generate_eq_error hp hg
          exact .inr (.inr ⟨events, p, e, name, loc, rfl,
            compile_of_generate_eq_error hscan hb hg, hcause, s, hs, hvar⟩)

end ArithCompiler
