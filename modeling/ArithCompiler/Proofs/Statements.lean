import ArithCompiler.Compile
import ArithCompiler.Proofs.Building
import ArithCompiler.Proofs.Scanning

/-!
# The trees of a program

Every statement that building gives for the lexemes of a text is a value or the
return of a value (`isStatement_of_build`). A value has no hole and no return in
it, its operators are among the four, and its numerals and names are spelled as
such. The invariant of building is that of its drafts: all frames of a spine take
and give values, except that a return can be the outermost one of a draft that no
parenthesis is around.
-/

namespace ArithCompiler

namespace Expr

/-- A tree that stands for a value. -/
def isValue : Expr → Bool
  | .hole => false
  | .literal _ digits => Text.isNumeral digits
  | .var _ name => isName name
  | .binary _ left op right => left.isValue && op.rank?.isSome && right.isValue
  | .assign _ name value => isName name && value.isValue
  | .ret _ _ => false
  | .group _ inner => inner.isValue

/-- A value, or the return of one. -/
def isStatement : Expr → Bool
  | .ret _ value => value.isValue
  | e => e.isValue

theorem isStatement_of_isValue {e : Expr} (h : e.isValue = true) : e.isStatement = true := by
  cases e with
  | ret => cases h
  | _ => exact h

end Expr

/-! ### Drafts -/

/-- A node of the spine that is a value once its last operand is one. -/
def Frame.isValue : Frame → Bool
  | .binary _ left _ => left.isValue
  | .assign _ name => isName name
  | .ret _ => false

theorem Frame.isValue_fill {f : Frame} {e : Expr} (hf : f.isValue = true)
    (he : e.isValue = true) : (f.fill e).isValue = true := by
  cases f with
  | binary loc left op =>
    have hl : left.isValue = true := hf
    simp [Frame.fill, Expr.isValue, hl, he, OpCode.rank?]
  | assign loc name =>
    have hn : isName name = true := hf
    simp [Frame.fill, Expr.isValue, hn, he]
  | ret loc => cases hf

namespace Draft

theorem isValue_plug {spine : List Frame} {e : Expr}
    (hs : ∀ f ∈ spine, f.isValue = true) (he : e.isValue = true) :
    (plug spine e).isValue = true := by
  induction spine generalizing e with
  | nil => exact he
  | cons f spine ih =>
    have hf : (f.fill e).isValue = true := Frame.isValue_fill (hs f (List.mem_cons_self ..)) he
    exact ih (fun g hg => hs g (List.mem_cons_of_mem _ hg)) hf

theorem plug_append (s t : List Frame) (e : Expr) : plug (s ++ t) e = plug t (plug s e) := by
  simp only [plug, List.foldl_append]

/-- The frame of a return, if there is one. -/
def returns (r : Option Location) : List Frame := r.toList.map .ret

/-- All of a draft but an outermost return takes and gives values. -/
structure Holds (r : Option Location) (d : Draft) : Prop where
  spine : ∃ s, d.spine = s ++ returns r ∧ ∀ f ∈ s, f.isValue = true
  operand : ∀ e ∈ d.operand, e.isValue = true

theorem holds_empty : Holds none .empty where
  spine := ⟨[], rfl, by simp⟩
  operand := by simp [empty]

theorem holds_startReturn (loc : Location) : Holds (some loc) (startReturn loc) where
  spine := ⟨[], rfl, by simp⟩
  operand := by simp [startReturn]

theorem holds_assign (loc : Location) {name : String} (hn : isName name = true) :
    Holds none ⟨[.assign loc name], none⟩ where
  spine := ⟨[.assign loc name], rfl, by simpa [Frame.isValue] using hn⟩
  operand := by simp

theorem Holds.attach {r : Option Location} {d : Draft} {e : Expr} (h : Holds r d)
    (he : e.isValue = true) : Holds r { d with operand := some e } where
  spine := h.spine
  operand := by
    intro x hx
    cases hx
    exact he

theorem climb_values (op : Operator) (r : Option Location) {s : List Frame} {e : Expr}
    (hs : ∀ f ∈ s, f.isValue = true) (he : e.isValue = true) :
    ∃ s' left, climb op (s ++ returns r) e = (s' ++ returns r, left) ∧
      (∀ f ∈ s', f.isValue = true) ∧ left.isValue = true := by
  induction s generalizing e with
  | nil =>
    refine ⟨[], e, ?_, by simp, he⟩
    cases r <;> rfl
  | cons f s ih =>
    simp only [List.cons_append, climb]
    by_cases hk : f.keepsAbove op = true
    · rw [if_pos hk]
      exact ⟨f :: s, e, rfl, hs, he⟩
    · rw [if_neg hk]
      have hf := hs f (List.mem_cons_self ..)
      exact ih (fun g hg => hs g (List.mem_cons_of_mem _ hg)) (Frame.isValue_fill hf he)

theorem Holds.operator {r : Option Location} {d : Draft} {e : Expr} (h : Holds r d)
    (ho : d.operand = some e) (loc : Location) (op : Operator) :
    Holds r ⟨.binary loc (climb op d.spine e).2 op :: (climb op d.spine e).1, none⟩ := by
  obtain ⟨s, hspine, hs⟩ := h.spine
  obtain ⟨s', left, hclimb, hs', hleft⟩ := climb_values op r hs (h.operand e ho)
  rw [hspine, hclimb]
  refine ⟨⟨.binary loc left op :: s', rfl, ?_⟩, by simp⟩
  intro f hf
  rcases List.mem_cons.mp hf with rfl | hf
  · exact hleft
  · exact hs' f hf

theorem Holds.root {r : Option Location} {d : Draft} {e : Expr} (h : Holds r d)
    (ho : d.operand = some e) : ∃ v : Expr, v.isValue = true ∧ d.root = plug (returns r) v := by
  obtain ⟨s, hspine, hs⟩ := h.spine
  refine ⟨plug s e, isValue_plug hs (h.operand e ho), ?_⟩
  rw [Draft.root, hspine, ho, plug_append]
  rfl

theorem Holds.isStatement_root {r : Option Location} {d : Draft} {e : Expr} (h : Holds r d)
    (ho : d.operand = some e) : d.root.isStatement = true := by
  obtain ⟨v, hv, hroot⟩ := h.root ho
  rw [hroot]
  cases r with
  | none => exact Expr.isStatement_of_isValue hv
  | some loc => exact hv

theorem Holds.isValue_root {d : Draft} {e : Expr} (h : Holds none d) (ho : d.operand = some e) :
    d.root.isValue = true := by
  obtain ⟨v, hv, hroot⟩ := h.root ho
  rw [hroot]
  exact hv

end Draft

/-! ### Builders -/

namespace Builder

/-- Inside parentheses there is no return. -/
def Nested : Draft → List OpenGroup → Prop
  | d, [] => ∃ r, d.Holds r
  | d, g :: gs => d.Holds none ∧ Nested g.parent gs

theorem Nested.holds {d : Draft} {gs : List OpenGroup} (h : Nested d gs) : ∃ r, d.Holds r := by
  cases gs with
  | nil => exact h
  | cons g gs => exact ⟨none, h.1⟩

theorem Nested.imp {d d' : Draft} {gs : List OpenGroup} (h : Nested d gs)
    (hd : ∀ r, d.Holds r → d'.Holds r) : Nested d' gs := by
  cases gs with
  | nil =>
    obtain ⟨r, hr⟩ := h
    exact ⟨r, hd r hr⟩
  | cons g gs => exact ⟨hd none h.1, h.2⟩

theorem Nested.of_holds {d d' : Draft} {gs : List OpenGroup} (h : Nested d gs)
    (hd : d'.Holds none) : Nested d' gs := by
  cases gs with
  | nil => exact ⟨none, hd⟩
  | cons g gs => exact ⟨hd, h.2⟩

structure Sound (b : Builder) : Prop where
  statements : ∀ s ∈ b.statements, s.isStatement = true
  drafts : Nested b.current b.groups

theorem sound_new : Sound new where
  statements := by simp [new]
  drafts := ⟨none, Draft.holds_empty⟩

theorem Sound.isStatement_append {b : Builder} {e : Expr} (hb : Sound b)
    (ho : b.current.operand = some e) :
    ∀ s ∈ b.statements ++ [b.current.root], s.isStatement = true := by
  obtain ⟨r, hr⟩ := hb.drafts.holds
  intro s hs
  rcases List.mem_append.mp hs with hs | hs
  · exact hb.statements s hs
  · obtain rfl := List.mem_singleton.mp hs
    exact hr.isStatement_root ho

theorem isNumeral_of_isSpelled {l : Lexeme} (hl : l.isSpelled = true) (hk : l.kind = .number) :
    Text.isNumeral l.text = true := by
  simpa only [Lexeme.isSpelled, hk] using hl

theorem isName_of_isSpelled {l : Lexeme} (hl : l.isSpelled = true) (hk : l.kind = .ident) :
    isName l.text = true := by
  simpa only [Lexeme.isSpelled, hk] using hl

theorem Sound.takes {b b' : Builder} {l : Lexeme} {warnings : List BuildEvent}
    (hl : l.isSpelled = true) (h : Takes b l b' warnings) (hb : Sound b) : Sound b' := by
  obtain ⟨hstmts, hdrafts⟩ := hb
  cases h with
  | number hk ho =>
    exact ⟨hstmts, hdrafts.imp fun r hr => hr.attach (isNumeral_of_isSpelled hl hk)⟩
  | name hk ho =>
    exact ⟨hstmts, hdrafts.imp fun r hr => hr.attach (isName_of_isSpelled hl hk)⟩
  | arithmetic hk ho => exact ⟨hstmts, hdrafts.imp fun r hr => hr.operator ho l.loc _⟩
  | endStatement hk hg ho =>
    exact ⟨Sound.isStatement_append ⟨hstmts, hdrafts⟩ ho, hdrafts.of_holds Draft.holds_empty⟩
  | endNothing hk hg hc => exact ⟨hstmts, hdrafts⟩
  | @assign loc name hk hc =>
    obtain ⟨r, hr⟩ := hdrafts.holds
    have hn : (Expr.var loc name).isValue = true := hr.operand _ (by rw [hc]; rfl)
    exact ⟨hstmts, hdrafts.of_holds (Draft.holds_assign l.loc hn)⟩
  | dropAssign hk hc => exact ⟨hstmts, hdrafts⟩
  | openGroup hk => exact ⟨hstmts, Draft.holds_empty, hdrafts⟩
  | @closeGroup g gs e hk hg ho hp =>
    rw [hg] at hdrafts
    have hv := hdrafts.1.isValue_root ho
    exact ⟨hstmts, hdrafts.2.imp fun r hr => hr.attach hv⟩
  | startReturn hk hg =>
    refine ⟨hstmts, ?_⟩
    simp only [hg]
    exact ⟨some l.loc, Draft.holds_startReturn l.loc⟩

theorem Sound.pushAll {b b' : Builder} {ls : List Lexeme} {events : List BuildEvent}
    (hls : ∀ l ∈ ls, l.isSpelled = true) (h : b.pushAll ls = (events, .ok b')) (hb : Sound b) :
    Sound b' :=
  pushAll_keeps (fun l hl _ _ _ ht hs => hs.takes (hls l hl) ht) h hb

theorem Sound.finish {b : Builder} {p : Program} (hb : Sound b) (h : b.finish.1 = .ok p) :
    ∀ s ∈ p, s.isStatement = true := by
  obtain ⟨_, _, hend⟩ := finish_eq_ok.mp h
  rcases hend with ⟨e, ho, rfl⟩ | ⟨_, rfl⟩
  · exact hb.isStatement_append ho
  · exact hb.statements

end Builder

theorem isStatement_of_build {source : List UInt8} {ls : List Lexeme} {events : List BuildEvent}
    {p : Program} (hs : tokenize source = .ok ls) (hb : build ls = (events, .ok p)) :
    ∀ s ∈ p, s.isStatement = true := by
  obtain ⟨b, hpush, hfinish⟩ := build_eq_ok.mp hb
  have hls : ∀ l ∈ ls, l.isSpelled = true := fun l hl => isSpelled_of_mem_tokenize hs hl
  exact (Builder.sound_new.pushAll hls hpush).finish hfinish

theorem compile_eq_ok {o : Options} {source : List UInt8} {c : Compiled} :
    (compile o source).2 = .ok c ↔
      ∃ ls events g l, tokenize source = .ok ls ∧ build ls = (events, .ok c.program) ∧
        generate c.program o.function = (.ok g, l) ∧ c.function = g.function := by
  obtain ⟨program, function⟩ := c
  rw [tokenize_eq]
  unfold compile parse parseText
  rw [tokenize_eq]
  simp only [Except.ok.injEq, exists_and_left, exists_eq_left']
  cases hb : build (scanned .start (Text.trim (Text.decode source))) with
  | mk events r =>
    cases r with
    | error e => simp
    | ok p =>
      simp only [lowerProgram, Prod.mk.injEq, Except.ok.injEq]
      cases hg : generate p o.function with
      | mk g l =>
        cases g with
        | error e =>
          simp only [reduceCtorEq, false_iff]
          rintro ⟨_, ⟨_, rfl⟩, g', l', hg', _⟩
          rw [hg] at hg'
          cases hg'
        | ok g =>
          simp only [Except.ok.injEq, Compiled.mk.injEq]
          constructor
          · rintro ⟨rfl, rfl⟩
            exact ⟨events, ⟨rfl, rfl⟩, g, l, hg, rfl⟩
          · rintro ⟨_, ⟨_, rfl⟩, g', l', hg', rfl⟩
            rw [hg] at hg'
            cases hg'
            exact ⟨rfl, rfl⟩

end ArithCompiler
