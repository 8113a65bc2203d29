import ArithCompiler.Proofs.Failures
import ArithCompiler.Proofs.RoundTrip
import ArithCompiler.Proofs.Segmentation

/-!
# The text of trees

The text of a tree is the head of its root, or a parenthesis with the head and the texts of the
parts. Heads have no parentheses and no blanks in them. So a text shows where each tree in it ends
(`determined_of_isSpelled`), and the head and the parts give the tree back up to its places
(`unlocated_eq_assemble`).
-/

namespace ArithCompiler

namespace Expr

/-- Numbers and names are spelled as such, and the operators are among the four. There may be
holes. -/
def isSpelled : Expr → Bool
  | .hole => true
  | .literal _ digits => Text.isNumeral digits
  | .var _ name => isWord name
  | .binary _ left op right => left.isSpelled && op.rank?.isSome && right.isSpelled
  | .assign _ name value => isWord name && value.isSpelled
  | .ret _ value => value.isSpelled
  | .group _ inner => inner.isSpelled

/-! ### Heads and parts -/

def head : Expr → String
  | .hole => "_"
  | .literal _ digits => digits
  | .var _ name => name
  | .binary _ _ op _ => op.render
  | .assign _ _ _ => "="
  | .ret _ _ => "return"
  | .group _ _ => "group"

/-- What stands after the head. The name that is assigned is shown as a variable is. -/
def parts : Expr → List Expr
  | .hole | .literal _ _ | .var _ _ => []
  | .binary _ left _ right => [left, right]
  | .assign _ name value => [.var .nowhere name, value]
  | .ret _ value => [value]
  | .group _ inner => [inner]

/-- The tree with a head and parts. -/
def assemble (head : String) : List Expr → Expr
  | [] =>
    if head = "_" then .hole
    else if Text.isNumeral head then .literal .nowhere head
    else .var .nowhere head
  | [part] => if head = "return" then .ret .nowhere part else .group .nowhere part
  | left :: right :: _ =>
    match Operator.ofSymbol? head with
    | some op => .binary .nowhere left (.known op) right
    | none => .assign .nowhere left.render right

theorem isSpelled_parts {e : Expr} (he : e.isSpelled = true) :
    ∀ c ∈ e.parts, c.isSpelled = true := by
  cases e with
  | hole | literal | var => simp [parts]
  | binary loc left op right =>
    simp only [isSpelled, Bool.and_eq_true] at he
    simp [parts, he]
  | assign loc name value =>
    simp only [isSpelled, Bool.and_eq_true] at he
    simp [parts, isSpelled, he]
  | ret loc value => exact List.forall_mem_singleton.mpr he
  | group loc inner => exact List.forall_mem_singleton.mpr he

end Expr

theorem not_isNumeral_of_isWord {s : String} (hs : isWord s = true) :
    Text.isNumeral s = false := by
  unfold isWord at hs
  unfold Text.isNumeral
  cases hcs : s.toList with
  | nil => rfl
  | cons c cs =>
    simp only [hcs, List.all_cons, Bool.and_eq_true] at hs
    simp [isDigit_of_isLetter hs.2.1]

namespace Expr

theorem unlocated_eq_assemble {e : Expr} (he : e.isSpelled = true) :
    e.unlocated = assemble e.head (e.parts.map unlocated) := by
  cases e with
  | hole => rfl
  | literal loc digits =>
    have hd : Text.isNumeral digits = true := he
    have hne : digits ≠ "_" := by
      rintro rfl
      exact absurd hd (by decide)
    simp [unlocated, head, parts, assemble, hne, hd]
  | var loc name =>
    have hn : isWord name = true := he
    have hne : name ≠ "_" := by
      rintro rfl
      exact absurd hn (by decide)
    simp [unlocated, head, parts, assemble, hne, not_isNumeral_of_isWord hn]
  | binary loc left op right =>
    simp only [isSpelled, Bool.and_eq_true] at he
    cases op with
    | known op => simp [unlocated, head, parts, assemble, OpCode.render, Operator.ofSymbol?_symbol]
    | unassigned n => cases he.1.2
  | assign loc name value => rfl
  | ret loc value => rfl
  | group loc inner => rfl

@[simp] theorem render_unlocated (e : Expr) : e.unlocated.render = e.render := by
  induction e with
  | hole | literal | var => rfl
  | binary loc left op right ihl ihr => simp only [unlocated, render, ihl, ihr]
  | assign loc name value ih => simp only [unlocated, render, ih]
  | ret loc value ih => simp only [unlocated, render, ih]
  | group loc inner ih => simp only [unlocated, render, ih]

/-! ### Texts -/

/-- The characters between heads. -/
def isMark (c : Char) : Bool := c == '(' || c == ')' || c == ' '

/-- A text that is not empty and has no marks in it. -/
def isPlain (s : String) : Bool := !s.toList.isEmpty && s.toList.all fun c => !isMark c

theorem isPlain_of_class (cls : Char → Bool) {s : String}
    (hcls : cls '(' = false ∧ cls ')' = false ∧ cls ' ' = false)
    (hs : (!s.toList.isEmpty && s.toList.all cls) = true) : isPlain s = true := by
  simp only [Bool.and_eq_true, List.all_eq_true] at hs
  simp only [isPlain, Bool.and_eq_true, List.all_eq_true, Bool.not_eq_true']
  refine ⟨by simpa using hs.1, fun c hc => ?_⟩
  have hin := hs.2 c hc
  simp only [isMark, Bool.or_eq_false_iff, beq_eq_false_iff_ne]
  refine ⟨⟨?_, ?_⟩, ?_⟩
  · rintro rfl
    simp [hcls.1] at hin
  · rintro rfl
    simp [hcls.2.1] at hin
  · rintro rfl
    simp [hcls.2.2] at hin

theorem isPlain_symbol (op : Operator) : isPlain op.symbol = true := by
  cases op <;> decide

theorem isPlain_head {e : Expr} (he : e.isSpelled = true) : isPlain e.head = true := by
  cases e with
  | hole => decide
  | literal loc digits => exact isPlain_of_class isDigit (by decide) he
  | var loc name => exact isPlain_of_class isLetter (by decide) he
  | binary loc left op right =>
    simp only [isSpelled, Bool.and_eq_true] at he
    cases op with
    | known op => exact isPlain_symbol op
    | unassigned n => cases he.1.2
  | assign => exact (by decide : isPlain "=" = true)
  | ret => exact (by decide : isPlain "return" = true)
  | group => exact (by decide : isPlain "group" = true)

/-- The texts of the parts of a tree, and what follows it. -/
def items (es : List Expr) (rest : List Char) : List Char :=
  es.flatMap (fun e => ' ' :: e.render.toList) ++ ')' :: rest

@[simp] theorem items_nil (rest : List Char) : items [] rest = ')' :: rest := rfl

@[simp] theorem items_cons (e : Expr) (es : List Expr) (rest : List Char) :
    items (e :: es) rest = ' ' :: (e.render.toList ++ items es rest) := by
  simp [items]

theorem isMark_head?_items (es : List Expr) (rest : List Char) :
    ∀ c ∈ (items es rest).head?, isMark c = true := by
  cases es <;> simp [isMark]

theorem render_append_of_leaf {e : Expr} (h : e.parts = []) (rest : List Char) :
    e.render.toList ++ rest = e.head.toList ++ rest := by
  cases e with
  | hole | literal | var => rfl
  | binary | assign | ret | group => cases h

theorem render_append_of_node {e : Expr} (h : e.parts ≠ []) (rest : List Char) :
    e.render.toList ++ rest = '(' :: (e.head.toList ++ items e.parts rest) := by
  cases e with
  | hole | literal | var => exact absurd rfl h
  | binary | assign | ret | group => simp [render, head, parts]

/-- Wherever the tree's text stands, no other tree's does, and it ends in one place. -/
def Determined (e : Expr) : Prop :=
  ∀ (e' : Expr) (rest rest' : List Char), e'.isSpelled = true →
    (∀ c ∈ rest.head?, isMark c = true) → (∀ c ∈ rest'.head?, isMark c = true) →
    e.render.toList ++ rest = e'.render.toList ++ rest' → e.unlocated = e'.unlocated ∧ rest = rest'

theorem items_inj {es es' : List Expr} {rest rest' : List Char}
    (hes : ∀ e ∈ es, e.Determined) (hes' : ∀ e ∈ es', e.isSpelled = true)
    (h : items es rest = items es' rest') :
    es.map unlocated = es'.map unlocated ∧ rest = rest' := by
  induction es generalizing es' with
  | nil =>
    cases es' with
    | nil => exact ⟨rfl, (List.cons.inj h).2⟩
    | cons e' es' => simp at h
  | cons e es ih =>
    cases es' with
    | nil => simp at h
    | cons e' es' =>
      obtain ⟨he, hes⟩ := List.forall_mem_cons.mp hes
      obtain ⟨he', hes'⟩ := List.forall_mem_cons.mp hes'
      simp only [items_cons, List.cons.injEq, true_and] at h
      obtain ⟨hfirst, hitems⟩ :=
        he e' _ _ he' (isMark_head?_items es rest) (isMark_head?_items es' rest') h
      obtain ⟨hmap, hrest⟩ := ih hes hes' hitems
      exact ⟨by rw [List.map_cons, List.map_cons, hfirst, hmap], hrest⟩

theorem plain_append_ne {s : String} (hs : isPlain s = true) (rest rest' : List Char) :
    s.toList ++ rest ≠ '(' :: rest' := by
  simp only [isPlain, Bool.and_eq_true, List.all_eq_true] at hs
  cases hcs : s.toList with
  | nil => simp [hcs] at hs
  | cons c cs =>
    have hc := hs.2 c (by simp [hcs])
    intro h
    obtain rfl := (List.cons.inj h).1
    exact absurd hc (by decide)

theorem plain_append_inj {s s' : String} (hs : isPlain s = true) (hs' : isPlain s' = true)
    {rest rest' : List Char} (hrest : ∀ c ∈ rest.head?, isMark c = true)
    (hrest' : ∀ c ∈ rest'.head?, isMark c = true)
    (h : s.toList ++ rest = s'.toList ++ rest') : s = s' ∧ rest = rest' := by
  simp only [isPlain, Bool.and_eq_true, List.all_eq_true] at hs hs'
  obtain ⟨htext, hrests⟩ := append_inj_of_run (fun c => !isMark c) hs.2
    (fun c hc => by simp [hrest c hc]) hs'.2 (fun c hc => by simp [hrest' c hc]) h
  exact ⟨String.toList_inj.mp htext, hrests⟩

theorem determined_of_parts {e : Expr} (he : e.isSpelled = true)
    (hparts : ∀ c ∈ e.parts, c.Determined) : e.Determined := by
  intro e' rest rest' he' hrest hrest' h
  -- the first character tells a leaf from a node
  by_cases hleaf : e.parts = [] <;> by_cases hleaf' : e'.parts = []
  · rw [render_append_of_leaf hleaf, render_append_of_leaf hleaf'] at h
    obtain ⟨hhead, hrests⟩ :=
      plain_append_inj (isPlain_head he) (isPlain_head he') hrest hrest' h
    rw [unlocated_eq_assemble he, unlocated_eq_assemble he', hhead, hleaf, hleaf']
    exact ⟨rfl, hrests⟩
  · rw [render_append_of_leaf hleaf, render_append_of_node hleaf'] at h
    exact absurd h (plain_append_ne (isPlain_head he) _ _)
  · rw [render_append_of_node hleaf, render_append_of_leaf hleaf'] at h
    exact absurd h.symm (plain_append_ne (isPlain_head he') _ _)
  · rw [render_append_of_node hleaf, render_append_of_node hleaf'] at h
    obtain ⟨hhead, hitems⟩ := plain_append_inj (isPlain_head he) (isPlain_head he')
      (isMark_head?_items _ _) (isMark_head?_items _ _) (List.cons.inj h).2
    obtain ⟨hmap, hrests⟩ := items_inj hparts (isSpelled_parts he') hitems
    rw [unlocated_eq_assemble he, unlocated_eq_assemble he', hhead, hmap]
    exact ⟨rfl, hrests⟩

theorem determined_of_isSpelled {e : Expr} (he : e.isSpelled = true) : e.Determined := by
  induction e with
  | hole | literal | var => exact determined_of_parts he (by simp [parts])
  | binary loc left op right ihl ihr =>
    have hspelled := isSpelled_parts he
    refine determined_of_parts he ?_
    simp only [parts, List.mem_cons, List.not_mem_nil, or_false, forall_eq_or_imp, forall_eq]
      at hspelled ⊢
    exact ⟨ihl hspelled.1, ihr hspelled.2⟩
  | assign loc name value ih =>
    have hspelled := isSpelled_parts he
    refine determined_of_parts he ?_
    simp only [parts, List.mem_cons, List.not_mem_nil, or_false, forall_eq_or_imp, forall_eq]
      at hspelled ⊢
    exact ⟨determined_of_parts hspelled.1 (by simp [parts]), ih hspelled.2⟩
  | ret loc value ih => exact determined_of_parts he (List.forall_mem_singleton.mpr (ih he))
  | group loc inner ih => exact determined_of_parts he (List.forall_mem_singleton.mpr (ih he))

theorem render_eq_iff {e e' : Expr} (he : e.isSpelled = true) (he' : e'.isSpelled = true) :
    e.render = e'.render ↔ e.unlocated = e'.unlocated := by
  constructor
  · intro h
    exact (determined_of_isSpelled he e' [] [] he' (by simp) (by simp) (by rw [h])).1
  · intro h
    rw [← render_unlocated, h, render_unlocated]

end Expr

/-! ### Programs -/

namespace Program

theorem render_map_unlocated (p : Program) : render (p.map Expr.unlocated) = p.render := by
  simp [render, Function.comp_def]

theorem toList_render (p : Program) : p.render.toList = "(program".toList ++ Expr.items p [] := by
  simp [render, Expr.items, String.toList_join, List.flatMap_map]

theorem render_eq_iff {p q : Program} (hp : ∀ s ∈ p, s.isSpelled = true)
    (hq : ∀ s ∈ q, s.isSpelled = true) :
    p.render = q.render ↔ p.map Expr.unlocated = q.map Expr.unlocated := by
  constructor
  · intro h
    rw [← String.toList_inj, toList_render, toList_render, List.append_cancel_left_eq] at h
    exact (Expr.items_inj (fun s hs => Expr.determined_of_isSpelled (hp s hs)) hq h).1
  · intro h
    rw [← render_map_unlocated, h, render_map_unlocated]

end Program

/-! ### Trees of builders -/

theorem Expr.isSpelled_of_isValue {e : Expr} (h : e.isValue = true) : e.isSpelled = true := by
  induction e with
  | hole => rfl
  | literal loc digits => exact h
  | var loc name => exact isWord_of_isName h
  | binary loc left op right ihl ihr =>
    simp only [isValue, Bool.and_eq_true] at h
    simp only [isSpelled, ihl h.1.1, h.1.2, ihr h.2, Bool.and_self]
  | assign loc name value ih =>
    simp only [isValue, Bool.and_eq_true] at h
    simp only [isSpelled, isWord_of_isName h.1, ih h.2, Bool.and_self]
  | ret => cases h
  | group loc inner ih => exact ih h

theorem Expr.isSpelled_of_isStatement {s : Expr} (h : s.isStatement = true) :
    s.isSpelled = true := by
  cases s with
  | ret loc value => exact isSpelled_of_isValue (e := value) h
  | _ => exact isSpelled_of_isValue h

theorem Frame.isSpelled_fill {f : Frame} {e : Expr} (hf : f.isValue = true)
    (he : e.isSpelled = true) : (f.fill e).isSpelled = true := by
  cases f with
  | binary loc left op =>
    have hl : left.isSpelled = true := Expr.isSpelled_of_isValue hf
    simp [fill, Expr.isSpelled, hl, he, OpCode.rank?]
  | assign loc name =>
    have hn : isWord name = true := isWord_of_isName hf
    simp [fill, Expr.isSpelled, hn, he]
  | ret loc => cases hf

theorem Draft.Holds.isSpelled_root {r : Option Location} {d : Draft} (h : d.Holds r) :
    d.root.isSpelled = true :=
  h.root_induction (P := fun e => e.isSpelled = true) rfl (fun _ => Expr.isSpelled_of_isValue)
    (fun _ hf _ => Frame.isSpelled_fill hf) fun _ _ he => he

namespace Builder

/-- The statements so far, and those of the drafts with holes in them. -/
def trees (b : Builder) : List Expr := b.statements ++ b.drafts.map Draft.root

/-- A builder that has taken lexemes from the start of a text. -/
def Reached (b : Builder) : Prop :=
  ∃ source ls before events, tokenize source = .ok ls ∧ before <+: ls ∧
    new.pushAll before = (events, .ok b)

theorem Reached.isSpelled_trees {b : Builder} (h : b.Reached) :
    ∀ e ∈ b.trees, e.isSpelled = true := by
  obtain ⟨source, ls, before, events, hscan, hbefore, hpush⟩ := h
  have hls : ∀ l ∈ before, l.isSpelled = true :=
    fun l hl => isSpelled_of_mem_tokenize hscan (hbefore.subset hl)
  have hsound := sound_new.pushAll hls hpush
  intro e he
  rcases List.mem_append.mp he with he | he
  · exact Expr.isSpelled_of_isStatement (hsound.statements e he)
  · obtain ⟨d, hd, rfl⟩ := List.mem_map.mp he
    obtain ⟨r, hr⟩ := hsound.drafts.holds_of_mem d hd
    exact hr.isSpelled_root

end Builder

/-- Trees, programs and the trees of builders have the same text just when they are the same up
to places. -/
theorem render_eq_iff_unlocated_eq :
    (∀ {e e' : Expr}, e.isSpelled = true → e'.isSpelled = true →
      (e.render = e'.render ↔ e.unlocated = e'.unlocated)) ∧
    (∀ {p q : Program}, (∀ s ∈ p, s.isSpelled = true) → (∀ s ∈ q, s.isSpelled = true) →
      (p.render = q.render ↔ p.map Expr.unlocated = q.map Expr.unlocated)) ∧
    (∀ {source source' : List UInt8} {ls ls' : List Lexeme} {events events' : List BuildEvent}
      {p q : Program}, tokenize source = .ok ls → build ls = (events, .ok p) →
      tokenize source' = .ok ls' → build ls' = (events', .ok q) →
      (p.render = q.render ↔ p.map Expr.unlocated = q.map Expr.unlocated)) ∧
    ∀ {b b' : Builder}, b.Reached → b'.Reached → ∀ e ∈ b.trees, ∀ e' ∈ b'.trees,
      (e.render = e'.render ↔ e.unlocated = e'.unlocated) := by
  refine ⟨Expr.render_eq_iff, Program.render_eq_iff, ?_, ?_⟩
  · intro source source' ls ls' events events' p q hscan hbuild hscan' hbuild'
    exact Program.render_eq_iff
      (fun s hs => Expr.isSpelled_of_isStatement (isStatement_of_build hscan hbuild s hs))
      fun s hs => Expr.isSpelled_of_isStatement (isStatement_of_build hscan' hbuild' s hs)
  · intro b b' hb hb' e he e' he'
    exact Expr.render_eq_iff (hb.isSpelled_trees e he) (hb'.isSpelled_trees e' he')

/-- The statement of `a - b - c`. -/
def chainedDifference : Program :=
  [.binary ⟨1, 7⟩ (.binary ⟨1, 3⟩ (.var ⟨1, 1⟩ "a") (.known .sub) (.var ⟨1, 5⟩ "b")) (.known .sub)
    (.var ⟨1, 9⟩ "c")]

/-- The statement of `a - (b - c)`. -/
def groupedDifference : Program :=
  [.binary ⟨1, 3⟩ (.var ⟨1, 1⟩ "a") (.known .sub)
    (.group ⟨1, 5⟩ (.binary ⟨1, 8⟩ (.var ⟨1, 6⟩ "b") (.known .sub) (.var ⟨1, 10⟩ "c")))]

/-- The builder that has taken `group = (`. -/
def openAssignment : Builder :=
  ⟨[], .empty, [⟨⟨1, 9⟩, ⟨[.assign ⟨1, 7⟩ "group"], none⟩⟩], none⟩

theorem render_eq_iff_unlocated_eq_difference :
    (∃ ls events, tokenize (Text.encode "a - b - c") = .ok ls ∧
      build ls = (events, .ok chainedDifference)) ∧
    (∃ ls events, tokenize (Text.encode "a - (b - c)") = .ok ls ∧
      build ls = (events, .ok groupedDifference)) ∧
    chainedDifference.render ≠ groupedDifference.render ∧
    openAssignment.Reached ∧
    openAssignment.trees = [.hole, .assign ⟨1, 7⟩ "group" .hole] ∧
    (Expr.assign ⟨1, 7⟩ "group" .hole).render ≠ Expr.hole.render ∧
    (Expr.var ⟨1, 1⟩ "group").render ≠ (Expr.group ⟨1, 1⟩ .hole).render ∧
    Program.render [.var ⟨1, 1⟩ "program"] ≠ Program.render [] := by
  obtain ⟨htrees, hprograms, hparsed, hbuilders⟩ := render_eq_iff_unlocated_eq
  have hscan := tokenize_eq (Text.encode "a - b - c")
  have hscan' := tokenize_eq (Text.encode "a - (b - c)")
  have hbuild : ∃ events, build (scanned .start (Text.trim (Text.decode (Text.encode
      "a - b - c")))) = (events, .ok chainedDifference) :=
    ⟨_, Prod.ext rfl (by decide +kernel)⟩
  have hbuild' : ∃ events, build (scanned .start (Text.trim (Text.decode (Text.encode
      "a - (b - c)")))) = (events, .ok groupedDifference) :=
    ⟨_, Prod.ext rfl (by decide +kernel)⟩
  obtain ⟨events, hbuild⟩ := hbuild
  obtain ⟨events', hbuild'⟩ := hbuild'
  have hreached : openAssignment.Reached :=
    ⟨_, _, _, _, tokenize_eq (Text.encode "group = ("), List.prefix_rfl,
      Prod.ext rfl (by decide +kernel)⟩
  refine ⟨⟨_, events, hscan, hbuild⟩, ⟨_, events', hscan', hbuild'⟩, ?_, hreached, rfl, ?_, ?_, ?_⟩
  · rw [ne_eq, hparsed hscan hbuild hscan' hbuild']
    decide
  · rw [ne_eq, hbuilders hreached hreached _ (by decide) _ (by decide)]
    decide
  · rw [ne_eq, htrees (by decide) (by decide)]
    decide
  · rw [ne_eq, hprograms (by decide) (by decide)]
    decide

end ArithCompiler
