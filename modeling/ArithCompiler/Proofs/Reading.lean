import ArithCompiler.Proofs.Building
import ArithCompiler.Proofs.Grammar

/-!
# Derivations are read

A builder takes the lexemes of every derivation without a warning, and has the
trees of the derivation in the end (`build_yield`). While a chain is read, the
spine of the draft holds its open product and its open sum, in front of the frame
of the statement's head.
-/

namespace ArithCompiler

/-- The rank tells the operators of sums from those of products, and nothing else. -/
theorem Operator.rank_eq (op : Operator) : op.rank = if op.isAdditive then 0 else 1 := by
  cases op <;> rfl

theorem Operator.rank_le_one (op : Operator) : op.rank ≤ 1 := by
  rw [rank_eq]
  split <;> decide

namespace Builder

/-! ### Runs without warnings -/

/-- A run that succeeds and gives no warning. -/
inductive Reads : Builder → List Lexeme → Builder → Prop
  | nil (b : Builder) : Reads b [] b
  | cons {b b₁ b' : Builder} {l : Lexeme} {ls : List Lexeme} (h : Takes b l b₁ [])
    (hrest : Reads b₁ ls b') : Reads b (l :: ls) b'

theorem Reads.single {b b' : Builder} {l : Lexeme} (h : Takes b l b' []) : Reads b [l] b' :=
  .cons h (.nil b')

theorem Reads.append {b b₁ b' : Builder} {ls ms : List Lexeme} (h : Reads b ls b₁)
    (hrest : Reads b₁ ms b') : Reads b (ls ++ ms) b' := by
  induction h with
  | nil => exact hrest
  | cons ht _ ih => exact .cons ht (ih hrest)

theorem Takes.isWarning {b b' : Builder} {l : Lexeme} {warnings : List BuildEvent}
    (h : Takes b l b' warnings) : ∀ e ∈ warnings, e.isWarning = true := by
  cases h with
  | dropAssign => simp [BuildEvent.isWarning]
  | startReturn =>
    intro e he
    split at he
    · cases he
    · obtain rfl := List.mem_singleton.mp he
      rfl
  | _ => simp

theorem reads_iff {b b' : Builder} {ls : List Lexeme} (hf : b.failure = none) :
    Reads b ls b' ↔
      ∃ events, b.pushAll ls = (events, .ok b') ∧ ∀ e ∈ events, e.isWarning = false := by
  constructor
  · intro h
    induction h with
    | nil b => exact ⟨[], rfl, by simp⟩
    | @cons b b₁ b' l ls ht _ ih =>
      obtain ⟨rest, hrest, hquiet⟩ := ih ((failure_of_takes ht).trans hf)
      refine ⟨_, pushAll_cons_eq_ok.mpr ⟨hf, b₁, [], rest, ht, hrest, rfl⟩, ?_⟩
      intro e he
      rcases List.mem_append.mp he with he | he
      · obtain rfl := List.mem_singleton.mp he
        rfl
      · exact hquiet e he
  · rintro ⟨events, hrun, hquiet⟩
    induction ls generalizing b events with
    | nil =>
      cases hrun
      exact .nil b'
    | cons l ls ih =>
      obtain ⟨_, b₁, warnings, rest, ht, hrest, rfl⟩ := pushAll_cons_eq_ok.mp hrun
      -- a warning of this step would be among the events
      have hnone : warnings = [] := by
        apply List.eq_nil_iff_forall_not_mem.mpr
        intro e he
        have hw := ht.isWarning e he
        rw [hquiet e (by simp [he])] at hw
        cases hw
      subst hnone
      exact .cons ht (ih ((failure_of_takes ht).trans hf) rest hrest
        fun e he => hquiet e (by simp [he]))

end Builder

namespace Grammar

/-! ### Heads of statements -/

/-- What can stand before the chain of a statement. -/
inductive Head where
  | plain
  | assign (name : Name) (equals : Equals)
  | ret (word : Return)

namespace Head

def yield : Head → List Lexeme
  | .plain => []
  | .assign name equals => [name.val, equals.val]
  | .ret word => [word.val]

def frames : Head → List Frame
  | .plain => []
  | .assign name equals => [.assign equals.val.loc name.val.text]
  | .ret word => [.ret word.val.loc]

def isReturn : Head → Bool
  | .ret _ => true
  | .plain | .assign _ _ => false

theorem climb_frames (h : Head) (op : Operator) (e : Expr) :
    Draft.climb op h.frames e = (h.frames, e) := by
  cases h <;> rfl

end Head

def Clause.head : Clause → Head
  | .plain _ => .plain
  | .assign name equals _ => .assign name equals

def Clause.value : Clause → Chain
  | .plain value => value
  | .assign _ _ value => value

theorem Clause.yield_eq (c : Clause) : c.yield = c.head.yield ++ c.value.yield := by
  cases c <;> simp [Clause.yield, Clause.head, Clause.value, Head.yield]

theorem Clause.tree_eq (c : Clause) : c.tree = Draft.plug c.head.frames c.value.tree := by
  cases c <;> simp [Clause.tree, Clause.head, Clause.value, Head.frames, Draft.plug, Frame.fill,
    Chain.tree]

def Statement.head : Statement → Head
  | .clause c => c.head
  | .ret word _ => .ret word

def Statement.value : Statement → Chain
  | .clause c => c.value
  | .ret _ value => value

theorem Statement.yield_eq (s : Statement) : s.yield = s.head.yield ++ s.value.yield := by
  cases s with
  | clause c => exact c.yield_eq
  | ret word value => rfl

theorem Statement.tree_eq (s : Statement) : s.tree = Draft.plug s.head.frames s.value.tree := by
  cases s with
  | clause c => exact c.tree_eq
  | ret word value => rfl

/-! ### Drafts of chains -/

def BinaryOp.frame (o : BinaryOp) (left : Expr) : Frame := .binary o.lexeme.loc left o.op

namespace Sum

/-- The frame of what stands before the last product. -/
def frames (s : Sum) : List Frame :=
  match s.before with
  | none => []
  | some (left, o) => [o.val.frame left]

/-- The frames once an operator is read and its right operand is expected. -/
def await (s : Sum) (o : BinaryOp) : List Frame :=
  if o.op.isAdditive then [o.frame s.tree] else o.frame s.last :: s.frames

theorem plug_frames (s : Sum) (base : List Frame) :
    Draft.plug (s.frames ++ base) s.last = Draft.plug base s.tree := by
  obtain ⟨_ | ⟨left, o⟩, e⟩ := s <;> rfl

theorem plug_await (s : Sum) (o : BinaryOp) (base : List Frame) (e : Expr) :
    Draft.plug (s.await o ++ base) e = Draft.plug base (s.add o e).tree := by
  rw [← plug_frames]
  by_cases h : o.op.isAdditive = true
  · simp only [await, add, h, ite_true, dite_true]
    rfl
  · simp only [await, add, h, Bool.false_eq_true, ite_false, dite_false]
    rfl

theorem climb_frames (s : Sum) (h : Head) (op : Operator) :
    Draft.climb op (s.frames ++ h.frames) s.last =
      if op.isAdditive then (h.frames, s.tree) else (s.frames ++ h.frames, s.last) := by
  obtain ⟨_ | ⟨left, o, ho⟩, e⟩ := s
  · simp [frames, tree, h.climb_frames]
  · cases hop : op.isAdditive with
    | true =>
      have hnlt : ¬ o.op.rank < op.rank := by simp [Operator.rank_eq, ho, hop]
      simp only [frames, List.cons_append, List.nil_append, Draft.climb, BinaryOp.frame,
        Frame.keepsAbove, hnlt, decide_false, Bool.false_eq_true, ite_false, ite_true,
        h.climb_frames]
      rfl
    | false =>
      have hlt : o.op.rank < op.rank := by simp [Operator.rank_eq, ho, hop]
      simp only [frames, List.cons_append, List.nil_append, Draft.climb, BinaryOp.frame,
        Frame.keepsAbove, hlt, decide_true, Bool.false_eq_true, ite_true, ite_false]

theorem climb_await (s : Sum) (o : BinaryOp) (h : Head) (op : Operator) (e : Expr) :
    Draft.climb op (s.await o ++ h.frames) e =
      Draft.climb op ((s.add o e).frames ++ h.frames) (s.add o e).last := by
  by_cases ho : o.op.isAdditive = true
  · simp only [await, add, ho, ite_true, dite_true]
    rfl
  · -- the new frame is of the highest rank, so no operator goes below it
    have hle : ¬ o.op.rank < op.rank := by
      have hmax := op.rank_le_one
      rw [o.op.rank_eq, if_neg ho]
      omega
    simp only [await, add, ho, Bool.false_eq_true, ite_false, dite_false, List.cons_append,
      Draft.climb, BinaryOp.frame, Frame.keepsAbove, hle, decide_false]
    rfl

end Sum

namespace Chain

def spine : Chain → List Frame
  | .single _ => []
  | .snoc c o _ => c.sum.await o

def last : Chain → Atom
  | .single x => x
  | .snoc _ _ x => x

def draft (c : Chain) (base : List Frame) : Draft := ⟨c.spine ++ base, some c.last.tree⟩

theorem root_draft (c : Chain) (base : List Frame) :
    (c.draft base).root = Draft.plug base c.tree := by
  cases c with
  | single x => simp [Draft.root, draft, spine, last, tree, Chain.sum, Sum.tree]
  | snoc c o x =>
    simp only [Draft.root, draft, spine, last, tree, Chain.sum, Option.getD_some]
    exact c.sum.plug_await o base x.tree

theorem climb_draft (c : Chain) (h : Head) (o : BinaryOp) :
    o.frame (Draft.climb o.op (c.spine ++ h.frames) c.last.tree).2 ::
        (Draft.climb o.op (c.spine ++ h.frames) c.last.tree).1 =
      c.sum.await o ++ h.frames := by
  have hsum : Draft.climb o.op (c.spine ++ h.frames) c.last.tree =
      Draft.climb o.op (c.sum.frames ++ h.frames) c.sum.last := by
    cases c with
    | single x => simp only [spine, last, Chain.sum, Sum.frames]
    | snoc c o' x =>
      simp only [spine, last, Chain.sum]
      exact c.sum.climb_await o' h o.op x.tree
  rw [hsum, c.sum.climb_frames h o.op]
  cases ho : o.op.isAdditive with
  | true => simp only [ho, ite_true, Sum.await, List.cons_append, List.nil_append]
  | false => simp only [ho, Bool.false_eq_true, ite_false, Sum.await, List.cons_append]

end Chain

/-! ### Derivations -/

open Builder

theorem reads_head (h : Head) (stmts : Program) (groups : List OpenGroup)
    (hg : h.isReturn = true → groups = []) :
    Reads ⟨stmts, .empty, groups, none⟩ h.yield ⟨stmts, ⟨h.frames, none⟩, groups, none⟩ := by
  cases h with
  | plain => exact .nil _
  | assign name equals =>
    exact .cons (.name name.property rfl) (.single (.assign equals.property rfl))
  | ret word => exact .single (.startReturn word.property (hg rfl))

mutual

theorem reads_atom (x : Atom) (stmts : Program) (spine : List Frame)
    (groups : List OpenGroup) :
    Reads ⟨stmts, ⟨spine, none⟩, groups, none⟩ x.yield
      ⟨stmts, ⟨spine, some x.tree⟩, groups, none⟩ := by
  match x with
  | .number n => exact .single (.number n.property rfl)
  | .name n => exact .single (.name n.property rfl)
  | .group opened inner closed =>
    have hinner := reads_clause inner stmts (⟨opened.val.loc, ⟨spine, none⟩⟩ :: groups)
    have hclose := Takes.closeGroup (b := ⟨stmts, inner.value.draft inner.head.frames,
      ⟨opened.val.loc, ⟨spine, none⟩⟩ :: groups, none⟩) closed.property rfl rfl rfl
    rw [Chain.root_draft, ← Clause.tree_eq] at hclose
    rw [Atom.yield, Atom.tree]
    exact .cons (.openGroup opened.property) (hinner.append (.single hclose))

theorem reads_clause (c : Clause) (stmts : Program) (groups : List OpenGroup) :
    Reads ⟨stmts, .empty, groups, none⟩ c.yield
      ⟨stmts, c.value.draft c.head.frames, groups, none⟩ := by
  match c with
  | .plain value =>
    rw [Clause.yield]
    exact reads_chain value .plain stmts groups
  | .assign name equals value =>
    have hhead := reads_head (.assign name equals) stmts groups (by simp [Head.isReturn])
    rw [Clause.yield]
    exact hhead.append (reads_chain value (.assign name equals) stmts groups)

theorem reads_chain (c : Chain) (h : Head) (stmts : Program) (groups : List OpenGroup) :
    Reads ⟨stmts, ⟨h.frames, none⟩, groups, none⟩ c.yield
      ⟨stmts, c.draft h.frames, groups, none⟩ := by
  match c with
  | .single x =>
    rw [Chain.yield]
    exact reads_atom x stmts h.frames groups
  | .snoc c o x =>
    have hop : Takes ⟨stmts, c.draft h.frames, groups, none⟩ o.lexeme
        ⟨stmts, ⟨c.sum.await o ++ h.frames, none⟩, groups, none⟩ [] := by
      rw [← c.climb_draft h o]
      exact .arithmetic o.spelled rfl
    rw [Chain.yield]
    exact (reads_chain c h stmts groups).append
      (.cons hop (reads_atom x stmts (c.sum.await o ++ h.frames) groups))

end

/-- The draft of a statement, which may be missing. -/
def draftOf : Option Statement → Draft
  | none => .empty
  | some s => s.value.draft s.head.frames

theorem reads_statement (s : Option Statement) (stmts : Program) :
    Reads ⟨stmts, .empty, [], none⟩ (s.elim [] Statement.yield)
      ⟨stmts, draftOf s, [], none⟩ := by
  cases s with
  | none => exact .nil _
  | some s =>
    rw [Option.elim_some, s.yield_eq]
    exact (reads_head s.head stmts [] fun _ => rfl).append (reads_chain s.value s.head stmts [])

theorem root_draftOf (s : Statement) : (draftOf (some s)).root = s.tree := by
  rw [s.tree_eq]
  exact s.value.root_draft s.head.frames

theorem takes_semicolon (s : Option Statement) (stmts : Program) (semicolon : Semicolon) :
    Takes ⟨stmts, draftOf s, [], none⟩ semicolon.val
      ⟨stmts ++ s.toList.map Statement.tree, .empty, [], none⟩ [] := by
  cases s with
  | none =>
    rw [Option.toList_none, List.map_nil, List.append_nil]
    exact .endNothing semicolon.property rfl rfl
  | some s =>
    rw [Option.toList_some, List.map_singleton, ← root_draftOf]
    exact .endStatement semicolon.property rfl rfl

namespace Statements

def done : Statements → Program
  | .first _ => []
  | .more before _ _ => before.trees

def last : Statements → Option Statement
  | .first s => s
  | .more _ _ s => s

theorem trees_eq (t : Statements) : t.trees = t.done ++ t.last.toList.map Statement.tree := by
  cases t with
  | first s => rw [trees, done, last, List.nil_append]
  | more before semicolon s => rfl

end Statements

theorem reads_statements (t : Statements) :
    Reads .new t.yield ⟨t.done, draftOf t.last, [], none⟩ := by
  induction t with
  | first s => exact reads_statement s []
  | more before semicolon s ih =>
    have hsemi := takes_semicolon before.last before.done semicolon
    rw [← before.trees_eq] at hsemi
    exact ih.append (.cons hsemi (reads_statement s before.trees))

theorem finish_statements (t : Statements) :
    (Builder.finish ⟨t.done, draftOf t.last, [], none⟩).1 = .ok t.trees := by
  refine finish_eq_ok.mpr ⟨rfl, rfl, ?_⟩
  rw [t.trees_eq]
  cases t.last with
  | none => exact .inr ⟨rfl, by simp⟩
  | some s => exact .inl ⟨_, rfl, by simp [root_draftOf]⟩

theorem build_yield (t : Statements) :
    ∃ events, build t.yield = (events, .ok t.trees) ∧ ∀ e ∈ events, e.isWarning = false := by
  obtain ⟨events, hrun, hquiet⟩ := (reads_iff rfl).mp (reads_statements t)
  exact ⟨events, build_eq_ok.mpr ⟨_, hrun, finish_statements t⟩, hquiet⟩

end Grammar

end ArithCompiler
