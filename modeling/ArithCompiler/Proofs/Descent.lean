import ArithCompiler.Proofs.Calls
import ArithCompiler.Proofs.Statements

/-!
# Steps of a draft, from the root

What a draft does at the end of its spine can also be said of its tree, from the root
on. An operand goes into the hole that the right spine leads to (`Expr.extend?`). An
operator goes down the right spine until it comes to a node that binds at least as
tight, and becomes the node above it (`Expr.insert?`). For all drafts that a builder
can have, the two agree (`steps_eq_descent`): the frames that an operator goes below
are an outer part of the spine, because ranks increase along it.
-/

namespace ArithCompiler

namespace Expr

/-- The tree with `n` in the hole at the end of its right spine (`SPEC_FULL.md` §4.2). -/
def extend? : Expr → Expr → Option Expr
  | .hole, n => some n
  | .literal _ _, _ | .var _ _, _ | .group _ _, _ => none
  | .binary loc left op right, n => (right.extend? n).map (.binary loc left op)
  | .assign loc name value, n => (value.extend? n).map (.assign loc name)
  | .ret loc value, n => (value.extend? n).map (.ret loc)

/-- The tree as the left operand of an operator whose right operand is expected. -/
def wrap (e : Expr) (loc : Location) (op : Operator) : Expr := .binary loc e (.known op) .hole

/-- The tree with an operator added, whose right operand is then expected, by the rule of
precedence in `SPEC_FULL.md` §4.1. A node of lower rank keeps its left operand, and so do
assignments and returns. -/
def insert? : Expr → Location → Operator → Option Expr
  | .hole, _, _ => none
  | .literal l digits, loc, op => some ((Expr.literal l digits).wrap loc op)
  | .var l name, loc, op => some ((Expr.var l name).wrap loc op)
  | .group l inner, loc, op => some ((Expr.group l inner).wrap loc op)
  | .binary l left code right, loc, op =>
    match code.rank? with
    | none => none
    | some r =>
      if op.rank ≤ r then some ((Expr.binary l left code right).wrap loc op)
      else (right.insert? loc op).map (.binary l left code)
  | .assign l name value, loc, op => (value.insert? loc op).map (.assign l name)
  | .ret l value, loc, op => (value.insert? loc op).map (.ret l)

theorem extend?_of_isAtomic {e : Expr} (h : e.isAtomic = true) (n : Expr) :
    e.extend? n = none := by
  cases e with
  | literal => rfl
  | var => rfl
  | group => rfl
  | _ => cases h

theorem insert?_of_isAtomic {e : Expr} (h : e.isAtomic = true) (loc : Location)
    (op : Operator) : e.insert? loc op = some (e.wrap loc op) := by
  cases e with
  | literal => rfl
  | var => rfl
  | group => rfl
  | _ => cases h

end Expr

/-! ### Frames -/

namespace Frame

theorem extend?_fill (f : Frame) (e n : Expr) :
    (f.fill e).extend? n = (e.extend? n).map f.fill := by
  cases f <;> rfl

theorem insert?_fill_below {f : Frame} {op : Operator} (h : f.keepsAbove op = true)
    (e : Expr) (loc : Location) : (f.fill e).insert? loc op = (e.insert? loc op).map f.fill := by
  cases f with
  | binary l left fop =>
    have hlt : ¬ op.rank ≤ fop.rank := by
      simp only [keepsAbove, decide_eq_true_eq] at h
      omega
    simp only [fill, Expr.insert?, OpCode.rank?, hlt, ite_false]
    rfl
  | assign => rfl
  | ret => rfl

theorem insert?_fill_above {f : Frame} {op : Operator} (h : f.keepsAbove op = false)
    (e : Expr) (loc : Location) : (f.fill e).insert? loc op = some ((f.fill e).wrap loc op) := by
  cases f with
  | binary l left fop =>
    have hle : op.rank ≤ fop.rank := by
      simp only [keepsAbove, decide_eq_false_iff_not] at h
      omega
    simp only [fill, Expr.insert?, OpCode.rank?, hle, ite_true]
  | assign => cases h
  | ret => cases h

end Frame

/-! ### Spines -/

namespace Draft

theorem extend?_plug (s : List Frame) (e n : Expr) :
    (plug s e).extend? n = (e.extend? n).map (plug s) := by
  induction s generalizing e with
  | nil => exact Option.map_id'.symm
  | cons f s ih =>
    rw [plug_cons, ih, f.extend?_fill, Option.map_map]
    rfl

theorem insert?_plug_below {s : List Frame} {op : Operator}
    (hs : ∀ f ∈ s, f.keepsAbove op = true) (e : Expr) (loc : Location) :
    (plug s e).insert? loc op = (e.insert? loc op).map (plug s) := by
  induction s generalizing e with
  | nil => exact Option.map_id'.symm
  | cons f s ih =>
    have hf := hs f (List.mem_cons_self ..)
    rw [plug_cons, ih (fun g hg => hs g (List.mem_cons_of_mem _ hg)), Frame.insert?_fill_below hf,
      Option.map_map]
    rfl

theorem insert?_plug_above {s : List Frame} {op : Operator} {e : Expr}
    (hs : ∀ f ∈ s, f.keepsAbove op = false) (he : e.isAtomic = true) (loc : Location) :
    (plug s e).insert? loc op = some ((plug s e).wrap loc op) := by
  -- from the root, only the outermost node is looked at
  rcases List.eq_nil_or_concat s with rfl | ⟨inner, f, rfl⟩
  · exact Expr.insert?_of_isAtomic he loc op
  · have hf : f.keepsAbove op = false := hs f (by simp)
    rw [List.concat_eq_append, plug_append]
    exact Frame.insert?_fill_above hf (plug inner e) loc

theorem Ordered.map_root_attach? {d : Draft} (h : d.Ordered) (n : Expr) :
    (d.attach? n).map root = d.root.extend? n := by
  rw [root, extend?_plug]
  cases ho : d.operand with
  | none => simp [attach?, ho, root, Expr.extend?]
  | some e => simp [attach?, ho, Expr.extend?_of_isAtomic (h.operand e ho)]

theorem Ordered.exists_operator? {d : Draft} (h : d.Ordered) (hc : d.root.isComplete = true)
    (loc : Location) (op : Operator) :
    ∃ d', d.operator? loc op = some d' ∧ d.root.insert? loc op = some d'.root := by
  cases ho : d.operand with
  | none => simp [h.operand_eq_none_iff.mp ho] at hc
  | some e =>
    obtain ⟨taken, rest, hspine, hclimb, htaken, hrest⟩ := climb_eq op h.below e
    refine ⟨⟨.binary loc (plug taken e) op :: rest, none⟩, by simp [operator?, ho, hclimb], ?_⟩
    have hroot : d.root = plug rest (plug taken e) := by
      rw [root, ho, hspine, plug_append]
      rfl
    rw [hroot, insert?_plug_below hrest, insert?_plug_above htaken (h.operand e ho)]
    rfl

theorem Ordered.operator?_eq_none {d : Draft} (h : d.Ordered) (hc : d.root.isComplete = false)
    (loc : Location) (op : Operator) : d.operator? loc op = none := by
  simp [operator?, h.operand_eq_none_iff.mpr hc]

end Draft

/-! ### Builders -/

theorem Builder.push_operator_of_hole {b : Builder} {l : Lexeme} {op : Operator}
    (hb : b.Ordered) (hf : b.failure = none) (hl : l.isOperator op.symbol = true)
    (hc : b.current.root.isComplete = false) :
    b.push l = (.error ⟨.noLeftOperand, l⟩, { b with failure := some ⟨.noLeftOperand, l⟩ }) := by
  obtain ⟨hk, ht⟩ := Lexeme.isOperator_iff.mp hl
  have hnone := hb.current.operator?_eq_none hc l.loc op
  have hstep : b.step l = .error ⟨.noLeftOperand, l⟩ := by
    simp [step, hk, operator, ht, Operator.symbol_ne_semicolon, Operator.symbol_ne_equals,
      arithmetic, Operator.ofSymbol?_symbol, hnone, quiet, Except.map]
  simp only [push, hf, hstep]

/-- An operand goes where the descent from the root finds a hole, and nowhere else. An
operator is added as by the descent if there is no hole. If there is one, it is refused,
and nothing changes but that the builder has failed. -/
theorem steps_eq_descent (calls : List Builder.Call) :
    (∀ d ∈ (Builder.after calls).drafts,
      (∀ n, (d.attach? n).map Draft.root = d.root.extend? n) ∧
      (d.root.isComplete = true → ∀ loc op, ∃ d', d.operator? loc op = some d' ∧
        d.root.insert? loc op = some d'.root) ∧
      (d.root.isComplete = false → ∀ loc op, d.operator? loc op = none)) ∧
    ((Builder.after calls).failure = none →
      (Builder.after calls).current.root.isComplete = false →
      ∀ l op, l.isOperator (Operator.symbol op) = true →
        (Builder.after calls).push l = (.error ⟨.noLeftOperand, l⟩,
          { Builder.after calls with failure := some ⟨.noLeftOperand, l⟩ })) := by
  have hordered := Builder.ordered_after calls
  refine ⟨?_, fun hf hc l op hl => Builder.push_operator_of_hole hordered hf hl hc⟩
  intro d hd
  have h := hordered.drafts d hd
  exact ⟨h.map_root_attach?, h.exists_operator?, h.operator?_eq_none⟩

/-- The draft of `return 1+2*`. -/
def awaitingFactor : Draft where
  spine := [.binary ⟨1, 11⟩ (.literal ⟨1, 10⟩ "2") .mul, .binary ⟨1, 9⟩ (.literal ⟨1, 8⟩ "1") .add,
    .ret ⟨1, 1⟩]
  operand := none

/-- The draft of `x-y` in the parenthesis that follows. -/
def openDifference : Draft where
  spine := [.binary ⟨1, 14⟩ (.var ⟨1, 13⟩ "x") .sub]
  operand := some (.var ⟨1, 15⟩ "y")

theorem steps_eq_descent_in_parenthesis :
    (Builder.after (Builder.pushes "return 1+2*(x-y")).drafts =
        [openDifference, awaitingFactor] ∧
      (awaitingFactor.attach? (.var ⟨1, 12⟩ "z")).map Draft.root =
        awaitingFactor.root.extend? (.var ⟨1, 12⟩ "z") ∧
      awaitingFactor.operator? ⟨1, 12⟩ .add = none ∧
      (∃ d', openDifference.operator? ⟨1, 16⟩ .mul = some d' ∧
        openDifference.root.insert? ⟨1, 16⟩ .mul = some d'.root) ∧
      ((Builder.after (Builder.pushes "return 1+2*")).push ⟨.operator, "+", ⟨1, 12⟩⟩).2.current =
        awaitingFactor := by
  have hdrafts : (Builder.after (Builder.pushes "return 1+2*(x-y")).drafts =
      [openDifference, awaitingFactor] := by
    decide +kernel
  have hopen : Builder.after (Builder.pushes "return 1+2*") = ⟨[], awaitingFactor, [], none⟩ := by
    decide +kernel
  have hsteps := (steps_eq_descent (Builder.pushes "return 1+2*(x-y")).1
  have hrefused := (steps_eq_descent (Builder.pushes "return 1+2*")).2
  rw [hdrafts] at hsteps
  rw [hopen] at hrefused ⊢
  obtain ⟨hattach, _, hnone⟩ := hsteps awaitingFactor (by simp)
  obtain ⟨_, hadded, _⟩ := hsteps openDifference (by simp)
  refine ⟨hdrafts, hattach _, hnone (by decide) _ _, hadded (by decide) _ _, ?_⟩
  rw [hrefused rfl (by decide) ⟨.operator, "+", ⟨1, 12⟩⟩ .add (by decide)]

end ArithCompiler
