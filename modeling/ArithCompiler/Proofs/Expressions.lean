import ArithCompiler.Proofs.Evaluation
import ArithCompiler.Proofs.Reading
import ArithCompiler.Proofs.Unassigned
import ArithCompiler.Proofs.Words

/-!
# Texts of arithmetic expressions

An expression over numerals and the four operators can be written in many ways:
with white space, with parentheses that are needed and with others (`Prints`).
The lexemes of every such text derive a tree that is the expression but for groups
(`PrintsProgram.exists_statements`), and evaluates to its value
(`Expr.Gives.evaluate`).
-/

namespace ArithCompiler

/-- A numeral that is not too large for an immediate. -/
abbrev Numeral :=
  { digits : String // Text.isNumeral digits = true ∧ Text.decimal digits < UInt64.size }

inductive Arith where
  | literal (digits : Numeral)
  | binary (op : Operator) (left right : Arith)

/-- The result of an operator on two words, in which arithmetic wraps. -/
def Operator.wrap : Operator → UInt32 → UInt32 → UInt32
  | .add, x, y => x + y
  | .sub, x, y => x - y
  | .mul, x, y => x * y
  | .div, x, y => x / y

namespace Arith

def value : Arith → UInt32
  | .literal digits => UInt32.ofNat (Text.decimal digits.val)
  | .binary op left right => op.wrap left.value right.value

/-- No divisor is zero. -/
def isDefined : Arith → Bool
  | .literal _ => true
  | .binary op left right =>
    left.isDefined && right.isDefined && !(op == .div && right.value == 0)

end Arith

/-! ### Texts -/

/-- White space, which may be missing. -/
abbrev Blanks := { cs : List Char // ∀ c ∈ cs, Text.isBlank c = true }

def Blanks.empty : Blanks := ⟨[], by simp⟩

def Blanks.space : Blanks := ⟨[' '], List.forall_mem_singleton.mpr Text.isBlank_space⟩

/-- The texts of an expression, with the rank of what is outermost: that of an
operator, or two for a numeral or a parenthesis. A left operand is not of lower
rank than its operator, and a right operand is of higher rank. -/
inductive Prints : Arith → Nat → List Char → Prop
  | literal (digits : Numeral) : Prints (.literal digits) 2 digits.val.toList
  | binary {op : Operator} {left right : Arith} {r r' : Nat} {t t' : List Char}
    (hleft : Prints left r t) (hright : Prints right r' t') (hr : op.rank ≤ r)
    (hr' : op.rank < r') (b b' : Blanks) :
    Prints (.binary op left right) op.rank (t ++ (b.val ++ (op.symbol.toList ++ (b'.val ++ t'))))
  | paren {e : Arith} {r : Nat} {t : List Char} (h : Prints e r t) (b b' : Blanks) :
    Prints e 2 ('(' :: (b.val ++ (t ++ (b'.val ++ [')']))))

/-- The texts of a program that gives an expression: the expression, or the return
of it. -/
inductive PrintsProgram (e : Arith) : List Char → Prop
  | plain {r : Nat} {t : List Char} (h : Prints e r t) (b b' : Blanks) :
    PrintsProgram e (b.val ++ (t ++ b'.val))
  | ret {r : Nat} {t : List Char} (h : Prints e r t) (b b' b'' : Blanks) :
    PrintsProgram e (b.val ++ ("return".toList ++ (b'.val ++ (t ++ b''.val))))

/-! ### Words of texts -/

theorem forall_head?_append {P : Char → Prop} {cs ds : List Char} (hcs : ∀ c ∈ cs.head?, P c)
    (hds : ∀ c ∈ ds.head?, P c) : ∀ c ∈ (cs ++ ds).head?, P c := by
  cases cs with
  | nil => exact hds
  | cons c cs => exact hcs

theorem Blanks.isAlone_head (b : Blanks) : ∀ c ∈ b.val.head?, isAlone c = true :=
  fun c hc => isAlone_of_isBlank (b.property c (List.mem_of_mem_head? hc))

theorem exists_symbol_toList (op : Operator) :
    ∃ c, op.symbol.toList = [c] ∧ isAlone c = true := by
  cases op <;> exact ⟨_, rfl, by decide⟩

theorem isAlone_head_symbol (op : Operator) (cs : List Char) :
    ∀ c ∈ (op.symbol.toList ++ cs).head?, isAlone c = true := by
  obtain ⟨d, hd, halone⟩ := exists_symbol_toList op
  intro c hc
  rw [hd] at hc
  cases hc
  exact halone

theorem isAlone_last_symbol (op : Operator) :
    ∀ c ∈ op.symbol.toList.getLast?, isAlone c = true := by
  obtain ⟨d, hd, halone⟩ := exists_symbol_toList op
  intro c hc
  rw [hd] at hc
  cases hc
  exact halone

theorem words_binary (op : Operator) (t t' : List Char) (b b' : Blanks) :
    words (t ++ (b.val ++ (op.symbol.toList ++ (b'.val ++ t')))) =
      words t ++ (.operator, op.symbol) :: words t' := by
  have hsep : Separate t (b.val ++ (op.symbol.toList ++ (b'.val ++ t'))) :=
    separate_of_head t (forall_head?_append b.isAlone_head (isAlone_head_symbol op _))
  have hsep' : Separate op.symbol.toList (b'.val ++ t') :=
    separate_of_last (isAlone_last_symbol op) _
  rw [words_append hsep, words_blanks_append b.property, words_append hsep', words_symbol,
    words_blanks_append b'.property, List.singleton_append]

theorem words_paren (t : List Char) (b b' : Blanks) :
    words ('(' :: (b.val ++ (t ++ (b'.val ++ [')'])))) =
      (.lparen, "(") :: (words t ++ [(.rparen, ")")]) := by
  have hlast : ∀ c ∈ ['('].getLast?, isAlone c = true := by
    intro c hc
    cases hc
    decide
  have hhead : ∀ c ∈ [')'].head?, isAlone c = true := by
    intro c hc
    cases hc
    decide
  have hsep : Separate ['('] (b.val ++ (t ++ (b'.val ++ [')']))) := separate_of_last hlast _
  have hsep' : Separate t (b'.val ++ [')']) :=
    separate_of_head t (forall_head?_append b'.isAlone_head hhead)
  have hopen : words ['('] = [(.lparen, "(")] := by decide +kernel
  have hclose : words [')'] = [(.rparen, ")")] := by decide +kernel
  rw [← List.singleton_append, words_append hsep, words_blanks_append b.property,
    words_append hsep', words_blanks_append b'.property, hopen, hclose, List.singleton_append]

theorem isLetter_of_isAlone {c : Char} (h : isAlone c = true) : isLetter c = false := by
  simp only [isAlone, Bool.and_eq_true, Bool.not_eq_true'] at h
  exact h.2

theorem Prints.isLetter_head {e : Arith} {r : Nat} {t : List Char} (h : Prints e r t) :
    ∀ c ∈ t.head?, isLetter c = false := by
  induction h with
  | literal digits =>
    intro c hc
    have hall := digits.property.1
    simp only [Text.isNumeral, Bool.and_eq_true] at hall
    have hd := toNat_of_isDigit (List.all_eq_true.mp hall.2 c (List.mem_of_mem_head? hc))
    apply Bool.eq_false_iff.mpr
    intro hl
    have := toNat_of_isLetter hl
    omega
  | @binary op left right r r' t t' hleft hright hr hr' b b' ihl ihr =>
    refine forall_head?_append ihl (forall_head?_append ?_ ?_)
    · exact fun c hc => isLetter_of_isAlone (b.isAlone_head c hc)
    · exact fun c hc => isLetter_of_isAlone (isAlone_head_symbol op _ c hc)
  | paren =>
    intro c hc
    cases hc
    decide

theorem words_return {e : Arith} {r : Nat} {t : List Char} (h : Prints e r t) (b b' : Blanks) :
    words ("return".toList ++ (b.val ++ (t ++ b'.val))) = (.keyword, "return") :: words t := by
  have hletter : ∀ c ∈ (b.val ++ (t ++ b'.val)).head?, isLetter c = false := by
    refine forall_head?_append ?_ (forall_head?_append h.isLetter_head ?_)
    · exact fun c hc => isLetter_of_isAlone (b.isAlone_head c hc)
    · exact fun c hc => isLetter_of_isAlone (b'.isAlone_head c hc)
  have hsep : Separate "return".toList (b.val ++ (t ++ b'.val)) := by
    intro a ha c hc
    have hdigit : isDigit a = false := by
      cases ha
      decide
    simp [runsOn, hdigit, hletter c hc]
  have hreturn : words "return".toList = [(.keyword, "return")] := by decide +kernel
  rw [words_append hsep, words_blanks_append b.property, words_append_blanks t b'.property,
    hreturn, List.singleton_append]

/-! ### Trees of expressions -/

/-- A tree that is an expression but for its groups. -/
inductive Expr.Shows : Expr → Arith → Prop
  | literal (loc : Location) (digits : Numeral) : Shows (.literal loc digits.val) (.literal digits)
  | binary (loc : Location) (op : Operator) {x y : Expr} {left right : Arith}
    (hx : Shows x left) (hy : Shows y right) :
    Shows (.binary loc x (.known op) y) (.binary op left right)
  | group (loc : Location) {x : Expr} {e : Arith} (hx : Shows x e) : Shows (.group loc x) e

namespace Grammar

theorem Sum.add_additive (s : Sum) (o : Additive) (e : Expr) :
    s.add o.val e = ⟨some (s.tree, o), e⟩ := by
  rw [Sum.add, dif_pos o.property]

theorem Sum.add_multiplicative (s : Sum) {o : BinaryOp}
    (ho : ¬ o.op.isAdditive = true) (e : Expr) :
    s.add o e = ⟨s.before, o.node s.last e⟩ := by
  rw [Sum.add, dif_neg ho]

theorem Sum.tree_of_before {s : Sum} (h : s.before = none) : s.tree = s.last := by
  obtain ⟨before, last⟩ := s
  cases h
  rfl

namespace Chain

/-- Two chains with an operator between them. -/
def append (c : Chain) (o : BinaryOp) : Chain → Chain
  | .single x => .snoc c o x
  | .snoc d o' x => .snoc (c.append o d) o' x

theorem yield_append (c : Chain) (o : BinaryOp) (d : Chain) :
    (c.append o d).yield = c.yield ++ o.lexeme :: d.yield := by
  cases d with
  | single x => rw [append, Chain.yield, Chain.yield]
  | snoc d o' x =>
    rw [append, Chain.yield, yield_append c o d, Chain.yield, List.append_assoc, List.cons_append]

theorem sum_append (c : Chain) (o : Additive) (d : Chain) (hd : d.sum.before = none) :
    (c.append o.val d).sum = ⟨some (c.tree, o), d.sum.last⟩ := by
  match d with
  | .single x => exact c.sum.add_additive o x.tree
  | .snoc d o' x =>
    rw [Chain.sum] at hd ⊢
    by_cases ho : o'.op.isAdditive = true
    · -- an additive operator would leave something before the last product
      rw [Sum.add_additive d.sum ⟨o', ho⟩] at hd
      cases hd
    · rw [Sum.add_multiplicative _ ho] at hd
      rw [append, Chain.sum, sum_append c o d hd, Sum.add_multiplicative _ ho,
        Sum.add_multiplicative _ ho]

/-- What a chain is by its rank: a product if that is above the rank of sums, and an atom
if it is above the rank of products. -/
structure Ranks (c : Chain) (r : Nat) : Prop where
  product : 0 < r → c.sum.before = none
  atom : 1 < r → ∃ x, c = .single x

theorem ranks_single (x : Atom) (r : Nat) : (Chain.single x).Ranks r where
  product := fun _ => rfl
  atom := fun _ => ⟨x, rfl⟩

/-- Two chains with an operator between them, of which the left one is not of lower rank
than the operator, and the right one is of higher rank. -/
theorem exists_join (o : BinaryOp) {c d : Chain} {r r' : Nat} (hc : c.Ranks r)
    (hd : d.Ranks r') (hr : o.op.rank ≤ r) (hr' : o.op.rank < r') :
    ∃ j : Chain, j.yield = c.yield ++ o.lexeme :: d.yield ∧
      j.tree = o.node c.tree d.tree ∧ j.Ranks o.op.rank := by
  have hrank := o.op.rank_eq
  by_cases hop : o.op.isAdditive = true
  · -- the right operand is a product, which is added as a whole
    rw [if_pos hop] at hrank
    have hbefore := hd.product (by omega)
    refine ⟨c.append o d, yield_append c o d, ?_, ⟨by omega, by omega⟩⟩
    rw [tree, sum_append c ⟨o, hop⟩ d hbefore, tree, tree, Sum.tree_of_before hbefore]
    rfl
  · -- the right operand is an atom, and one more factor of the left one
    rw [if_neg hop] at hrank
    obtain ⟨x, rfl⟩ := hd.atom (by omega)
    have hbefore := hc.product (by omega)
    have hsum : (Chain.snoc c o x).sum = ⟨none, o.node c.sum.last x.tree⟩ := by
      rw [Chain.sum, Sum.add_multiplicative _ hop, hbefore]
    refine ⟨.snoc c o x, ?_, ?_, ⟨fun _ => by rw [hsum], by omega⟩⟩
    · rw [Chain.yield, Chain.yield]
    · rw [tree, hsum, tree, Sum.tree_of_before hbefore]
      rfl

end Chain

end Grammar

open Grammar

/-- The lexemes of a text derive a chain of which the tree is the expression. -/
theorem Prints.exists_chain {e : Arith} {r : Nat} {t : List Char} (h : Prints e r t)
    {ls : List Lexeme} (hls : ls.map Lexeme.word = words t) :
    ∃ c : Chain, c.yield = ls ∧ c.tree.Shows e ∧ c.Ranks r := by
  induction h generalizing ls with
  | literal digits =>
    rw [words_numeral digits.property.1] at hls
    obtain ⟨l, rfl, hl⟩ := List.map_eq_singleton_iff.mp hls
    obtain ⟨hkind, htext⟩ := Prod.mk.inj hl
    refine ⟨.single (.number ⟨l, hkind⟩), rfl, ?_, Chain.ranks_single _ 2⟩
    have hshows := Expr.Shows.literal l.loc digits
    rw [← htext] at hshows
    exact hshows
  | @binary op left right r r' t t' hleft hright hr hr' b b' ihl ihr =>
    rw [words_binary] at hls
    obtain ⟨ls₁, ms, rfl, hls₁, hms⟩ := List.map_eq_append_iff.mp hls
    obtain ⟨l, ls₂, rfl, hl, hls₂⟩ := List.map_eq_cons_iff.mp hms
    obtain ⟨c₁, rfl, hshows₁, hranks₁⟩ := ihl hls₁
    obtain ⟨c₂, rfl, hshows₂, hranks₂⟩ := ihr hls₂
    have hspelled : l.isOperator op.symbol = true :=
      Lexeme.isOperator_iff.mpr (Prod.mk.inj hl)
    obtain ⟨c, hyield, htree, hranks⟩ :=
      Chain.exists_join ⟨l, op, hspelled⟩ hranks₁ hranks₂ hr hr'
    refine ⟨c, hyield, ?_, hranks⟩
    rw [htree]
    exact .binary l.loc op hshows₁ hshows₂
  | @paren e r t h b b' ih =>
    rw [words_paren] at hls
    obtain ⟨l, ms, rfl, hl, hms⟩ := List.map_eq_cons_iff.mp hls
    obtain ⟨ls₁, ns, rfl, hls₁, hns⟩ := List.map_eq_append_iff.mp hms
    obtain ⟨l', rfl, hl'⟩ := List.map_eq_singleton_iff.mp hns
    obtain ⟨c, rfl, hshows, _⟩ := ih hls₁
    refine ⟨.single (.group ⟨l, (Prod.mk.inj hl).1⟩ (.plain c) ⟨l', (Prod.mk.inj hl').1⟩), rfl, ?_,
      Chain.ranks_single _ 2⟩
    exact .group l.loc hshows

/-- A statement that gives an expression: the expression itself, or its return. -/
inductive Expr.Gives : Expr → Arith → Prop
  | value {x : Expr} {e : Arith} (h : x.Shows e) : Gives x e
  | ret (loc : Location) {x : Expr} {e : Arith} (h : x.Shows e) : Gives (.ret loc x) e

theorem PrintsProgram.exists_statements {e : Arith} {text : List Char}
    (h : PrintsProgram e text) {ls : List Lexeme} (hls : ls.map Lexeme.word = words text) :
    ∃ (t : Statements) (s : Expr), t.yield = ls ∧ t.trees = [s] ∧ s.Gives e := by
  cases h with
  | @plain r t h b b' =>
    rw [words_blanks_append b.property, words_append_blanks t b'.property] at hls
    obtain ⟨c, rfl, hshows, _⟩ := h.exists_chain hls
    exact ⟨.first (some (.clause (.plain c))), _, rfl, rfl, .value hshows⟩
  | @ret r t h b b' b'' =>
    rw [words_blanks_append b.property, words_return h] at hls
    obtain ⟨l, ms, rfl, hl, hms⟩ := List.map_eq_cons_iff.mp hls
    obtain ⟨c, rfl, hshows, _⟩ := h.exists_chain hms
    have hword : l.isKeyword "return" = true := Lexeme.isKeyword_iff.mpr (Prod.mk.inj hl)
    exact ⟨.first (some (.ret ⟨l, hword⟩ c)), _, rfl, rfl, .ret l.loc hshows⟩

/-! ### Values -/

theorem Operator.result?_eq_wrap {op : Operator} {x y : UInt32}
    (h : (op == .div && y == 0) = false) : op.result? x y = some (op.wrap x y) := by
  cases op with
  | div =>
    have hy : y ≠ 0 := by simpa using h
    simp only [Operator.result?, hy, ite_false, Operator.wrap]
  | _ => rfl

theorem Expr.Shows.evaluate {x : Expr} {e : Arith} (h : x.Shows e) (hd : e.isDefined = true)
    (env : Env) : x.evaluate env = .ok (e.value, env) := by
  induction h with
  | literal loc digits => rfl
  | binary loc op hx hy ihx ihy =>
    simp only [Arith.isDefined, Bool.and_eq_true, Bool.not_eq_true'] at hd
    obtain ⟨⟨hleft, hright⟩, hop⟩ := hd
    simp only [Expr.evaluate, ihx hleft, ihy hright, OpCode.apply, Operator.result?_eq_wrap hop,
      Arith.value]
  | group loc hx ih => exact ih hd

theorem Expr.Shows.literals {x : Expr} {e : Arith} (h : x.Shows e) :
    ∀ digits ∈ x.literals, Text.decimal digits < UInt64.size := by
  induction h with
  | literal loc digits =>
    intro d hd
    obtain rfl := List.mem_singleton.mp hd
    exact digits.property.2
  | binary loc op hx hy ihx ihy =>
    intro d hd
    rcases List.mem_append.mp hd with hd | hd
    · exact ihx d hd
    · exact ihy d hd
  | group loc hx ih => exact ih

theorem Expr.Shows.vars {x : Expr} {e : Arith} (h : x.Shows e) : x.vars = [] := by
  induction h with
  | literal loc digits => rfl
  | binary loc op hx hy ihx ihy => rw [Expr.vars, ihx, ihy, List.append_nil]
  | group loc hx ih => exact ih

namespace Expr.Gives

theorem evaluate {s : Expr} {e : Arith} (h : s.Gives e) (hd : e.isDefined = true) :
    Program.evaluate [s] = .ok e.value.toInt32 := by
  have heval : s.evaluate .empty = .ok (e.value, .empty) := by
    cases h with
    | value h => exact h.evaluate hd .empty
    | ret loc h => exact h.evaluate hd .empty
  simp only [Program.evaluate, evaluateAll, heval]
  split <;> rfl

theorem literals {s : Expr} {e : Arith} (h : s.Gives e) :
    ∀ digits ∈ Program.literals [s], Text.decimal digits < UInt64.size := by
  simp only [Program.literals, List.flatMap_singleton]
  cases h with
  | value h => exact h.literals
  | ret loc h => exact h.literals

theorem vars {s : Expr} {e : Arith} (h : s.Gives e) : s.vars = [] := by
  cases h with
  | value h => exact h.vars
  | ret loc h => exact h.vars

end Expr.Gives

end ArithCompiler
