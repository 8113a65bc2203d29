import ArithCompiler.Proofs.Reading

/-!
# Building is parsing

A list of lexemes is built without a warning exactly if it has a derivation, and
the program is that of the derivation (`build_eq_trees_iff`). For the direction
from the builder to the grammar, a builder that has read some lexemes is
matched with what they are a beginning of: finished statements, then for each open
parenthesis a clause that is begun and awaits an atom, then the clause that is
begun last (`Builder.Parses`).
-/

namespace ArithCompiler

namespace Grammar

/-! ### Clauses that are begun -/

/-- What is read of a chain. -/
inductive Body where
  | nothing
  | chain (c : Chain)
  | awaiting (c : Chain) (o : BinaryOp)

namespace Body

def yield : Body → List Lexeme
  | .nothing => []
  | .chain c => c.yield
  | .awaiting c o => c.yield ++ [o.lexeme]

def draft (base : List Frame) : Body → Draft
  | .nothing => ⟨base, none⟩
  | .chain c => c.draft base
  | .awaiting c o => ⟨c.sum.await o ++ base, none⟩

end Body

/-- A statement that is begun. -/
structure Begun where
  head : Head
  body : Body

namespace Begun

def yield (p : Begun) : List Lexeme := p.head.yield ++ p.body.yield

def draft (p : Begun) : Draft := p.body.draft p.head.frames

def start : Begun := ⟨.plain, .nothing⟩

@[simp] theorem yield_start : start.yield = [] := rfl

theorem exists_attach (p : Begun) (x : Atom) (h : p.draft.operand = none) :
    ∃ p' : Begun, p'.head = p.head ∧ p'.draft = { p.draft with operand := some x.tree } ∧
      p'.yield = p.yield ++ x.yield := by
  obtain ⟨head, body⟩ := p
  cases body with
  | nothing =>
    refine ⟨⟨head, .chain (.single x)⟩, rfl, rfl, ?_⟩
    simp [yield, Body.yield, Chain.yield]
  | chain c => cases h
  | awaiting c o =>
    refine ⟨⟨head, .chain (.snoc c o x)⟩, rfl, rfl, ?_⟩
    simp [yield, Body.yield, Chain.yield]

theorem exists_chain {p : Begun} {e : Expr} (h : p.draft.operand = some e) :
    ∃ c, p = ⟨p.head, .chain c⟩ := by
  obtain ⟨head, body⟩ := p
  cases body with
  | nothing => cases h
  | chain c => exact ⟨c, rfl⟩
  | awaiting c o => cases h

theorem exists_operator (p : Begun) (o : BinaryOp) {e : Expr} (h : p.draft.operand = some e) :
    ∃ p' : Begun, p'.head = p.head ∧
      p'.draft = ⟨o.frame (Draft.climb o.op p.draft.spine e).2 ::
        (Draft.climb o.op p.draft.spine e).1, none⟩ ∧
      p'.yield = p.yield ++ [o.lexeme] := by
  obtain ⟨c, hp⟩ := exists_chain h
  rw [hp] at h ⊢
  cases h
  refine ⟨⟨p.head, .awaiting c o⟩, rfl, ?_, ?_⟩
  · exact congrArg (Draft.mk · none) (c.climb_draft p.head o).symm
  · simp [yield, Body.yield]

theorem await_ne_nil (s : Sum) (o : BinaryOp) : s.await o ≠ [] := by
  unfold Sum.await
  split <;> simp

theorem frames_eq_nil {h : Head} (hf : h.frames = []) : h = .plain := by
  cases h with
  | plain => rfl
  | assign => cases hf
  | ret => cases hf

theorem eq_start {p : Begun} (h : p.draft = .empty) : p = start := by
  obtain ⟨head, body⟩ := p
  cases body with
  | nothing =>
    have hspine : head.frames = [] := congrArg Draft.spine h
    rw [frames_eq_nil hspine]
    rfl
  | chain c => cases congrArg Draft.operand h
  | awaiting c o =>
    have hspine : c.sum.await o ++ head.frames = [] := congrArg Draft.spine h
    exact absurd (List.append_eq_nil_iff.mp hspine).1 (await_ne_nil c.sum o)

theorem exists_name {p : Begun} {loc : Location} {name : String}
    (h : p.draft = ⟨[], some (.var loc name)⟩) :
    ∃ n : Name, p.yield = [n.val] ∧ n.val.text = name := by
  obtain ⟨c, hp⟩ := exists_chain (congrArg Draft.operand h)
  rw [hp] at h ⊢
  have hspine : c.spine ++ p.head.frames = [] := congrArg Draft.spine h
  obtain ⟨hc, hh⟩ := List.append_eq_nil_iff.mp hspine
  have htree : c.last.tree = .var loc name := Option.some.inj (congrArg Draft.operand h)
  rw [frames_eq_nil hh]
  cases c with
  | snoc c o x => exact absurd hc (await_ne_nil c.sum o)
  | single x =>
    cases x with
    | number n => cases htree
    | group opened inner closed => cases htree
    | name n =>
      cases htree
      exact ⟨n, rfl, rfl⟩

theorem root_chain (h : Head) (c : Chain) :
    (Begun.mk h (.chain c)).draft.root = Draft.plug h.frames c.tree :=
  c.root_draft h.frames

theorem exists_clause {p : Begun} {e : Expr} (h : p.draft.operand = some e)
    (hr : p.head.isReturn = false) :
    ∃ c : Clause, c.yield = p.yield ∧ c.tree = p.draft.root := by
  obtain ⟨c, hp⟩ := exists_chain h
  rw [hp, root_chain]
  cases hh : p.head with
  | plain => exact ⟨.plain c, (Clause.plain c).yield_eq, (Clause.plain c).tree_eq⟩
  | assign name equals =>
    exact ⟨.assign name equals c, (Clause.assign name equals c).yield_eq,
      (Clause.assign name equals c).tree_eq⟩
  | ret word => simp [hh, Head.isReturn] at hr

theorem exists_statement {p : Begun} {e : Expr} (h : p.draft.operand = some e) :
    ∃ s : Statement, s.yield = p.yield ∧ s.tree = p.draft.root := by
  cases hh : p.head with
  | ret word =>
    obtain ⟨c, hp⟩ := exists_chain h
    rw [hp, root_chain, hh]
    exact ⟨.ret word c, rfl, rfl⟩
  | plain =>
    obtain ⟨c, hyield, htree⟩ := exists_clause h (by rw [hh]; rfl)
    exact ⟨.clause c, hyield, htree⟩
  | assign name equals =>
    obtain ⟨c, hyield, htree⟩ := exists_clause h (by rw [hh]; rfl)
    exact ⟨.clause c, hyield, htree⟩

end Begun

end Grammar

/-! ### Builders -/

namespace Builder

open Grammar

/-- Lexemes after which a statement can begin, and the trees up to there. -/
def Finished (stmts : Program) (ls : List Lexeme) : Prop :=
  ∀ s : Option Statement, ∃ t : Statements,
    t.yield = ls ++ s.elim [] Statement.yield ∧ t.trees = stmts ++ s.toList.map Statement.tree

theorem finished_nil : Finished [] [] :=
  fun s => ⟨.first s, rfl, rfl⟩

theorem Finished.semicolon {stmts : Program} {ls : List Lexeme} (h : Finished stmts ls)
    (s : Option Statement) (semicolon : Semicolon) :
    Finished (stmts ++ s.toList.map Statement.tree)
      (ls ++ s.elim [] Statement.yield ++ [semicolon.val]) := by
  intro s'
  obtain ⟨t, hyield, htrees⟩ := h s
  refine ⟨.more t semicolon s', ?_, ?_⟩
  · rw [Statements.yield, hyield]
    simp
  · rw [Statements.trees, htrees]

/-- The lexemes of the statement up to its last open parenthesis. -/
inductive Within : List OpenGroup → List Lexeme → Prop
  | top : Within [] []
  | group {gs : List OpenGroup} {ls : List Lexeme} (h : Within gs ls) (p : Begun)
    (hp : p.draft.operand = none) (hr : gs ≠ [] → p.head.isReturn = false) (opened : Opening) :
    Within (⟨opened.val.loc, p.draft⟩ :: gs) (ls ++ p.yield ++ [opened.val])

/-- The lexemes that were read to come to a builder. -/
def Parses (b : Builder) (ls : List Lexeme) : Prop :=
  ∃ before inner, ∃ p : Begun,
    Finished b.statements before ∧ Within b.groups inner ∧ p.draft = b.current ∧
    (b.groups ≠ [] → p.head.isReturn = false) ∧ ls = before ++ inner ++ p.yield

/-- A parenthesis was opened where no operand is awaited. It can never be closed. -/
def Stuck (b : Builder) : Prop := ∃ g ∈ b.groups, g.parent.operand ≠ none

theorem Stuck.takes {b b' : Builder} {l : Lexeme} {warnings : List BuildEvent}
    (hb : Stuck b) (h : Takes b l b' warnings) : Stuck b' := by
  obtain ⟨g, hg, hne⟩ := hb
  cases h with
  | openGroup => exact ⟨g, List.mem_cons_of_mem _ hg, hne⟩
  | closeGroup _ hgs _ hp =>
    rw [hgs] at hg
    rcases List.mem_cons.mp hg with rfl | hg
    · exact absurd hp hne
    · exact ⟨g, hg, hne⟩
  | _ => exact ⟨g, hg, hne⟩

theorem Parses.attach {b : Builder} {ls : List Lexeme} (hb : Parses b ls) (x : Atom)
    (ho : b.current.operand = none) :
    Parses { b with current := { b.current with operand := some x.tree } } (ls ++ x.yield) := by
  obtain ⟨before, inner, p, hbefore, hinner, hp, hr, rfl⟩ := hb
  rw [← hp] at ho
  obtain ⟨p', hhead, hdraft, hyield⟩ := p.exists_attach x ho
  refine ⟨before, inner, p', hbefore, hinner, hdraft.trans (by rw [hp]), ?_, ?_⟩
  · rw [hhead]
    exact hr
  · rw [hyield, List.append_assoc]

theorem Parses.operator {b : Builder} {ls : List Lexeme} {e : Expr} (hb : Parses b ls)
    (o : BinaryOp) (ho : b.current.operand = some e) :
    Parses { b with current := ⟨o.frame (Draft.climb o.op b.current.spine e).2 ::
      (Draft.climb o.op b.current.spine e).1, none⟩ } (ls ++ [o.lexeme]) := by
  obtain ⟨before, inner, p, hbefore, hinner, hp, hr, rfl⟩ := hb
  rw [← hp] at ho ⊢
  obtain ⟨p', hhead, hdraft, hyield⟩ := p.exists_operator o ho
  refine ⟨before, inner, p', hbefore, hinner, hdraft, ?_, ?_⟩
  · rw [hhead]
    exact hr
  · rw [hyield, List.append_assoc]

theorem parses_of_finished {b : Builder} {ls : List Lexeme} (h : Finished b.statements ls)
    (hg : b.groups = []) (hc : b.current = .empty) : Parses b ls := by
  refine ⟨ls, [], .start, h, ?_, hc.symm, fun _ => rfl, ?_⟩
  · rw [hg]
    exact .top
  · simp

theorem Parses.endStatement {b : Builder} {ls : List Lexeme} {e : Expr} (hb : Parses b ls)
    (semicolon : Semicolon) (hg : b.groups = []) (ho : b.current.operand = some e) :
    Parses { b with statements := b.statements ++ [b.current.root], current := .empty }
      (ls ++ [semicolon.val]) := by
  obtain ⟨before, inner, p, hbefore, hinner, hp, _, rfl⟩ := hb
  rw [← hp] at ho ⊢
  rw [hg] at hinner
  cases hinner
  obtain ⟨s, hyield, htree⟩ := Begun.exists_statement ho
  have hdone := hbefore.semicolon (some s) semicolon
  rw [Option.elim_some, hyield, Option.toList_some, List.map_singleton, htree] at hdone
  rw [List.append_nil]
  exact parses_of_finished hdone hg rfl

theorem Parses.endNothing {b : Builder} {ls : List Lexeme} (hb : Parses b ls)
    (semicolon : Semicolon) (hg : b.groups = []) (hc : b.current = .empty) :
    Parses b (ls ++ [semicolon.val]) := by
  obtain ⟨before, inner, p, hbefore, hinner, hp, _, rfl⟩ := hb
  obtain rfl := Begun.eq_start (hp.trans hc)
  rw [hg] at hinner
  cases hinner
  have hdone := hbefore.semicolon none semicolon
  rw [Option.elim_none, Option.toList_none, List.map_nil, List.append_nil, List.append_nil] at hdone
  rw [Begun.yield_start, List.append_nil, List.append_nil]
  exact parses_of_finished hdone hg hc

theorem Parses.assign {b : Builder} {ls : List Lexeme} {loc : Location} {name : String}
    (hb : Parses b ls) (equals : Equals) (hc : b.current = ⟨[], some (.var loc name)⟩) :
    Parses { b with current := ⟨[.assign equals.val.loc name], none⟩ } (ls ++ [equals.val]) := by
  obtain ⟨before, inner, p, hbefore, hinner, hp, _, rfl⟩ := hb
  obtain ⟨n, hyield, rfl⟩ := Begun.exists_name (hp.trans hc)
  refine ⟨before, inner, ⟨.assign n equals, .nothing⟩, hbefore, hinner, rfl, fun _ => rfl, ?_⟩
  rw [hyield]
  simp [Begun.yield, Head.yield, Body.yield]

theorem Parses.openGroup {b : Builder} {ls : List Lexeme} (hb : Parses b ls) (opened : Opening)
    (ho : b.current.operand = none) :
    Parses { b with current := .empty, groups := ⟨opened.val.loc, b.current⟩ :: b.groups }
      (ls ++ [opened.val]) := by
  obtain ⟨before, inner, p, hbefore, hinner, hp, hr, rfl⟩ := hb
  rw [← hp] at ho ⊢
  refine ⟨before, _, .start, hbefore, .group hinner p ho hr opened, rfl, fun _ => rfl, ?_⟩
  simp

theorem Parses.closeGroup {b : Builder} {ls : List Lexeme} {g : OpenGroup}
    {gs : List OpenGroup} {e : Expr} (hb : Parses b ls) (closed : Closing)
    (hg : b.groups = g :: gs) (ho : b.current.operand = some e) :
    Parses { b with
      current := { g.parent with operand := some (.group g.loc b.current.root) },
      groups := gs } (ls ++ [closed.val]) := by
  obtain ⟨before, inner, p, hbefore, hinner, hp, hr, rfl⟩ := hb
  rw [← hp] at ho ⊢
  obtain ⟨c, hyield, htree⟩ := Begun.exists_clause ho (hr (by simp [hg]))
  rw [hg] at hinner
  cases hinner with
  | @group _ outer houter q hq hqr opened =>
    -- the clause with its parentheses is an atom of the clause around it
    have hparent : Parses { b with current := q.draft, groups := gs }
        (before ++ outer ++ q.yield) :=
      ⟨before, outer, q, hbefore, houter, rfl, hqr, rfl⟩
    have hatom := hparent.attach (.group opened c closed) hq
    rw [Atom.tree, Atom.yield, htree, hyield] at hatom
    simpa using hatom

theorem Parses.startReturn {b : Builder} {ls : List Lexeme} (hb : Parses b ls) (word : Return)
    (hg : b.groups = []) (hc : b.current = .empty) :
    Parses { b with current := .startReturn word.val.loc } (ls ++ [word.val]) := by
  obtain ⟨before, inner, p, hbefore, hinner, hp, _, rfl⟩ := hb
  obtain rfl := Begun.eq_start (hp.trans hc)
  refine ⟨before, inner, ⟨.ret word, .nothing⟩, hbefore, hinner, rfl, fun h => absurd hg h, ?_⟩
  rw [Begun.yield_start, List.append_nil]
  rfl

theorem Parses.takes {b b' : Builder} {l : Lexeme} {warnings : List BuildEvent}
    {ls : List Lexeme} (hb : Parses b ls) (h : Takes b l b' warnings) (hw : warnings = []) :
    Parses b' (ls ++ [l]) ∨ Stuck b' := by
  cases h with
  | number hk ho => exact .inl (hb.attach (.number ⟨l, hk⟩) ho)
  | name hk ho => exact .inl (hb.attach (.name ⟨l, hk⟩) ho)
  | @arithmetic op e hk ho => exact .inl (hb.operator ⟨l, op, hk⟩ ho)
  | endStatement hk hg ho => exact .inl (hb.endStatement ⟨l, hk⟩ hg ho)
  | endNothing hk hg hc => exact .inl (hb.endNothing ⟨l, hk⟩ hg hc)
  | assign hk hc => exact .inl (hb.assign ⟨l, hk⟩ hc)
  | dropAssign => cases hw
  | openGroup hk =>
    -- after a complete operand the parenthesis can never be closed
    cases ho : b.current.operand with
    | none => exact .inl (hb.openGroup ⟨l, hk⟩ ho)
    | some e => exact .inr ⟨⟨l.loc, b.current⟩, List.mem_cons_self .., by simp [ho]⟩
  | closeGroup hk hg ho hp => exact .inl (hb.closeGroup ⟨l, hk⟩ hg ho)
  | startReturn hk hg =>
    have he : b.current.isEmpty = true := by
      cases he : b.current.isEmpty with
      | true => rfl
      | false => simp [he] at hw
    exact .inl (hb.startReturn ⟨l, hk⟩ hg (Draft.eq_empty_of_isEmpty he))

/-! ### Runs -/

theorem Reads.parses {b b' : Builder} {ls ms : List Lexeme} (h : Reads b ms b')
    (hb : Parses b ls ∨ Stuck b) : Parses b' (ls ++ ms) ∨ Stuck b' := by
  induction h generalizing ls with
  | nil b =>
    rw [List.append_nil]
    exact hb
  | @cons b b₁ b' l ms ht _ ih =>
    rw [List.append_cons]
    apply ih
    rcases hb with hb | hb
    · exact hb.takes ht rfl
    · exact .inr (hb.takes ht)

theorem Parses.finish {b : Builder} {ls : List Lexeme} {p : Program} (hb : Parses b ls)
    (h : b.finish.1 = .ok p) : ∃ t : Statements, t.yield = ls ∧ t.trees = p := by
  obtain ⟨_, hg, hend⟩ := finish_eq_ok.mp h
  obtain ⟨before, inner, q, hbefore, hinner, hq, _, rfl⟩ := hb
  rw [hg] at hinner
  cases hinner
  rcases hend with ⟨e, ho, rfl⟩ | ⟨hc, rfl⟩
  · rw [← hq] at ho ⊢
    obtain ⟨s, hyield, htree⟩ := Begun.exists_statement ho
    obtain ⟨t, ht, htrees⟩ := hbefore (some s)
    refine ⟨t, ?_, ?_⟩
    · rw [ht, Option.elim_some, hyield, List.append_nil]
    · rw [htrees, Option.toList_some, List.map_singleton, htree]
  · obtain rfl := Begun.eq_start (hq.trans hc)
    obtain ⟨t, ht, htrees⟩ := hbefore none
    refine ⟨t, ?_, ?_⟩
    · rw [ht, List.append_nil]
      rfl
    · rw [htrees, Option.toList_none, List.map_nil, List.append_nil]

end Builder

open Grammar Builder

/-- Building succeeds without a warning exactly on the lexemes of a derivation, and
gives its trees. -/
theorem build_eq_trees_iff (ls : List Lexeme) (p : Program) :
    (∃ events, build ls = (events, .ok p) ∧ ∀ e ∈ events, e.isWarning = false) ↔
      ∃ t : Statements, t.yield = ls ∧ t.trees = p := by
  constructor
  · rintro ⟨events, hbuild, hquiet⟩
    obtain ⟨b, hrun, hfinish⟩ := build_eq_ok.mp hbuild
    have hreads : Reads .new ls b := (reads_iff rfl).mpr ⟨events, hrun, hquiet⟩
    have hnew : Parses .new [] := parses_of_finished finished_nil rfl rfl
    rcases hreads.parses (.inl hnew) with hb | ⟨g, hg, _⟩
    · exact hb.finish hfinish
    · rw [(finish_eq_ok.mp hfinish).2.1] at hg
      cases hg
  · rintro ⟨t, rfl, rfl⟩
    exact build_yield t

end ArithCompiler
