import ArithCompiler.Proofs.Spacing
import ArithCompiler.Proofs.Spines

/-!
# Writing programs and reading them back

A tree is in normal form if it can be written without a parenthesis that is not one of its
groups (`Expr.isNormal`). The words of such a tree derive it again, but for its places
(`Expr.derives_of_isNormal`), so that scanning and building a text of a program gives the
program (`build_tokenize_written`).
-/

namespace ArithCompiler

open Grammar

/-- Where a tree stands: what may stand there is a statement, a clause or a chain. -/
inductive Position where
  | statement
  | group
  | operand
deriving DecidableEq

namespace Expr

def unlocated : Expr → Expr
  | .hole => .hole
  | .literal _ digits => .literal .nowhere digits
  | .var _ name => .var .nowhere name
  | .binary _ left op right => .binary .nowhere left.unlocated op right.unlocated
  | .assign _ name value => .assign .nowhere name value.unlocated
  | .ret _ value => .ret .nowhere value.unlocated
  | .group _ inner => .group .nowhere inner.unlocated

/-- Normal form: numbers and names are spelled as such, returns are statements,
assignments are statements or stand directly in a group, and an operand that is a binary
node does not need a group. -/
def isNormal : Position → Expr → Bool
  | _, .hole => false
  | _, .literal _ digits => Text.isNumeral digits
  | _, .var _ name => isName name
  | _, .binary _ left (.known op) right =>
    left.isNormal .operand && right.isNormal .operand &&
      left.rank?.all (op.rank ≤ ·) && right.rank?.all (op.rank < ·)
  | _, .binary _ _ (.unassigned _) _ => false
  | p, .assign _ name value => p != .operand && isName name && value.isNormal .operand
  | p, .ret _ value => p == .statement && value.isNormal .operand
  | _, .group _ inner => inner.isNormal .group

/-- The words of the tree, with parentheses at its groups only. -/
def written : Expr → List Word
  | .hole => []
  | .literal _ digits => [(.number, digits)]
  | .var _ name => [(.ident, name)]
  | .binary _ left op right => left.written ++ (.operator, op.render) :: right.written
  | .assign _ name value => (.ident, name) :: (.operator, "=") :: value.written
  | .ret _ value => (.keyword, "return") :: value.written
  | .group _ inner => (.lparen, "(") :: (inner.written ++ [(.rparen, ")")])

end Expr

/-- The words of a program, with a semicolon between any two statements. -/
def Program.written : Program → List Word
  | [] => []
  | s :: rest => s.written ++ rest.flatMap fun s => (.operator, ";") :: s.written

/-! ### Words -/

theorem Expr.words_of_mem_written {e : Expr} {p : Position} (he : e.isNormal p = true) :
    ∀ w ∈ e.written, words w.2.toList = [w] := by
  induction e generalizing p with
  | hole => cases he
  | literal loc digits => exact List.forall_mem_singleton.mpr (words_numeral he)
  | var loc name => exact List.forall_mem_singleton.mpr (words_name he)
  | binary loc left code right ihl ihr =>
    cases code with
    | unassigned n => cases he
    | known op =>
      simp only [isNormal, Bool.and_eq_true] at he
      obtain ⟨⟨⟨hleft, hright⟩, _⟩, _⟩ := he
      exact List.forall_mem_append.mpr
        ⟨ihl hleft, List.forall_mem_cons.mpr ⟨words_symbol op, ihr hright⟩⟩
  | assign loc name value ih =>
    simp only [isNormal, Bool.and_eq_true] at he
    obtain ⟨⟨_, hname⟩, hvalue⟩ := he
    have hequals : words "=".toList = [(.operator, "=")] := by decide +kernel
    exact List.forall_mem_cons.mpr
      ⟨words_name hname, List.forall_mem_cons.mpr ⟨hequals, ih hvalue⟩⟩
  | ret loc value ih =>
    simp only [isNormal, Bool.and_eq_true] at he
    have hreturn : words "return".toList = [(.keyword, "return")] := by decide +kernel
    exact List.forall_mem_cons.mpr ⟨hreturn, ih he.2⟩
  | group loc inner ih =>
    have hopen : words "(".toList = [(.lparen, "(")] := by decide +kernel
    have hclose : words ")".toList = [(.rparen, ")")] := by decide +kernel
    exact List.forall_mem_cons.mpr ⟨hopen, List.forall_mem_append.mpr
      ⟨ih he, List.forall_mem_singleton.mpr hclose⟩⟩

theorem Program.words_of_mem_written {p : Program}
    (hp : ∀ s ∈ p, s.isNormal .statement = true) :
    ∀ w ∈ p.written, words w.2.toList = [w] := by
  cases p with
  | nil => exact List.forall_mem_nil _
  | cons s rest =>
    obtain ⟨hs, hrest⟩ := List.forall_mem_cons.mp hp
    refine List.forall_mem_append.mpr ⟨Expr.words_of_mem_written hs, ?_⟩
    intro w hw
    obtain ⟨s', hs', hw⟩ := List.mem_flatMap.mp hw
    have hsemicolon : words ";".toList = [(.operator, ";")] := by decide +kernel
    rcases List.mem_cons.mp hw with rfl | hw
    · exact hsemicolon
    · exact Expr.words_of_mem_written (hrest s' hs') w hw

/-! ### Derivations -/

/-- The lexemes derive the tree, but for its places. An operand is derived with its rank,
which is two unless it is a binary node. -/
def Position.Derives : Position → Expr → List Lexeme → Prop
  | .statement, e, ls => ∃ s : Statement, s.yield = ls ∧ s.tree.unlocated = e.unlocated
  | .group, e, ls => ∃ c : Clause, c.yield = ls ∧ c.tree.unlocated = e.unlocated
  | .operand, e, ls => ∃ c : Chain, c.yield = ls ∧ c.tree.unlocated = e.unlocated ∧
      c.Ranks (e.rank?.getD 2)

theorem Position.derives_of_clause {p : Position} {e : Expr} {c : Clause} (hp : p ≠ .operand)
    (hc : c.tree.unlocated = e.unlocated) : p.Derives e c.yield := by
  cases p with
  | statement => exact ⟨.clause c, rfl, hc⟩
  | group => exact ⟨c, rfl, hc⟩
  | operand => exact absurd rfl hp

theorem Position.derives_of_chain (p : Position) {e : Expr} {c : Chain}
    (hc : c.tree.unlocated = e.unlocated) (hr : c.Ranks (e.rank?.getD 2)) :
    p.Derives e c.yield := by
  by_cases hp : p = .operand
  · rw [hp]
    exact ⟨c, rfl, hc, hr⟩
  · exact derives_of_clause (c := .plain c) hp hc

theorem le_rank_of_all {r : Option Nat} {n : Nat} (h : r.all (n ≤ ·) = true) (hn : n ≤ 2) :
    n ≤ r.getD 2 := by
  cases r with
  | none => exact hn
  | some m => exact of_decide_eq_true h

theorem Expr.derives_of_isNormal {e : Expr} {p : Position} (he : e.isNormal p = true)
    {ls : List Lexeme} (hls : ls.map Lexeme.word = e.written) : p.Derives e ls := by
  induction e generalizing p ls with
  | hole => cases he
  | literal loc digits =>
    obtain ⟨l, rfl, hl⟩ := List.map_eq_singleton_iff.mp hls
    obtain ⟨hkind, rfl⟩ := Prod.mk.inj hl
    exact p.derives_of_chain (c := .single (.number ⟨l, hkind⟩)) rfl (Chain.ranks_single _ _)
  | var loc name =>
    obtain ⟨l, rfl, hl⟩ := List.map_eq_singleton_iff.mp hls
    obtain ⟨hkind, rfl⟩ := Prod.mk.inj hl
    exact p.derives_of_chain (c := .single (.name ⟨l, hkind⟩)) rfl (Chain.ranks_single _ _)
  | binary loc left code right ihl ihr =>
    cases code with
    | unassigned n => cases he
    | known op =>
      simp only [isNormal, Bool.and_eq_true] at he
      obtain ⟨⟨⟨hleft, hright⟩, hrank⟩, hrank'⟩ := he
      obtain ⟨ls₁, ms, rfl, hls₁, hms⟩ := List.map_eq_append_iff.mp hls
      obtain ⟨l, ls₂, rfl, hl, hls₂⟩ := List.map_eq_cons_iff.mp hms
      obtain ⟨c₁, rfl, htree₁, hranks₁⟩ := ihl hleft hls₁
      obtain ⟨c₂, rfl, htree₂, hranks₂⟩ := ihr hright hls₂
      have hspelled : l.isOperator op.symbol = true :=
        Lexeme.isOperator_iff.mpr (Prod.mk.inj hl)
      -- an operand that is no binary node has rank two, above that of all operators
      have hmax := op.rank_le_one
      have hr : op.rank ≤ left.rank?.getD 2 := le_rank_of_all hrank (by omega)
      have hr' : op.rank < right.rank?.getD 2 := le_rank_of_all hrank' (by omega)
      obtain ⟨c, hyield, htree, hranks⟩ :=
        Chain.exists_join ⟨l, op, hspelled⟩ hranks₁ hranks₂ hr hr'
      rw [← hyield]
      refine p.derives_of_chain ?_ hranks
      rw [htree, BinaryOp.node, unlocated, unlocated, htree₁, htree₂]
  | assign loc name value ih =>
    simp only [isNormal, Bool.and_eq_true, bne_iff_ne] at he
    obtain ⟨⟨hp, _⟩, hvalue⟩ := he
    obtain ⟨l, ms, rfl, hl, hms⟩ := List.map_eq_cons_iff.mp hls
    obtain ⟨l', ls, rfl, hl', hvs⟩ := List.map_eq_cons_iff.mp hms
    obtain ⟨hkind, rfl⟩ := Prod.mk.inj hl
    have hequals : l'.isOperator "=" = true := Lexeme.isOperator_iff.mpr (Prod.mk.inj hl')
    obtain ⟨c, rfl, htree, _⟩ := ih hvalue hvs
    refine Position.derives_of_clause (c := .assign ⟨l, hkind⟩ ⟨l', hequals⟩ c) hp ?_
    exact congrArg (Expr.assign .nowhere l.text) htree
  | ret loc value ih =>
    simp only [isNormal, Bool.and_eq_true, beq_iff_eq] at he
    obtain ⟨rfl, hvalue⟩ := he
    obtain ⟨l, ls, rfl, hl, hvs⟩ := List.map_eq_cons_iff.mp hls
    have hreturn : l.isKeyword "return" = true := Lexeme.isKeyword_iff.mpr (Prod.mk.inj hl)
    obtain ⟨c, rfl, htree, _⟩ := ih hvalue hvs
    exact ⟨.ret ⟨l, hreturn⟩ c, rfl, congrArg (Expr.ret .nowhere) htree⟩
  | group loc inner ih =>
    obtain ⟨l, ms, rfl, hl, hms⟩ := List.map_eq_cons_iff.mp hls
    obtain ⟨ls, ns, rfl, hvs, hns⟩ := List.map_eq_append_iff.mp hms
    obtain ⟨l', rfl, hl'⟩ := List.map_eq_singleton_iff.mp hns
    -- in a group stands a clause, whatever the position of the group itself
    obtain ⟨c, rfl, htree⟩ := ih he hvs
    refine p.derives_of_chain
      (c := .single (.group ⟨l, (Prod.mk.inj hl).1⟩ c ⟨l', (Prod.mk.inj hl').1⟩)) ?_
      (Chain.ranks_single _ _)
    exact congrArg (Expr.group .nowhere) htree

theorem exists_more (before : Statements) {p : Program}
    (hp : ∀ s ∈ p, s.isNormal .statement = true) {ls : List Lexeme}
    (hls : ls.map Lexeme.word = p.flatMap fun s => (.operator, ";") :: s.written) :
    ∃ t : Statements, t.yield = before.yield ++ ls ∧
      t.trees.map Expr.unlocated =
        before.trees.map Expr.unlocated ++ p.map Expr.unlocated := by
  induction p generalizing before ls with
  | nil =>
    obtain rfl := List.map_eq_nil_iff.mp hls
    exact ⟨before, by rw [List.append_nil], by rw [List.map_nil, List.append_nil]⟩
  | cons s p ih =>
    obtain ⟨hs, hp⟩ := List.forall_mem_cons.mp hp
    rw [List.flatMap_cons, List.cons_append] at hls
    obtain ⟨l, ms, rfl, hl, hms⟩ := List.map_eq_cons_iff.mp hls
    obtain ⟨ls₁, ls₂, rfl, hls₁, hls₂⟩ := List.map_eq_append_iff.mp hms
    have hsemicolon : l.isOperator ";" = true := Lexeme.isOperator_iff.mpr (Prod.mk.inj hl)
    obtain ⟨s', rfl, htree⟩ := Expr.derives_of_isNormal hs hls₁
    -- the induction is on the statements to come, so this one joins those before
    obtain ⟨t, hyield, htrees⟩ := ih (.more before ⟨l, hsemicolon⟩ (some s')) hp hls₂
    refine ⟨t, ?_, ?_⟩
    · rw [hyield, Statements.yield, List.append_assoc]
      rfl
    · rw [htrees, Statements.trees, List.map_append, List.append_assoc, List.map_cons, ← htree]
      rfl

theorem Program.exists_statements {p : Program}
    (hp : ∀ s ∈ p, s.isNormal .statement = true) {ls : List Lexeme}
    (hls : ls.map Lexeme.word = p.written) :
    ∃ t : Statements, t.yield = ls ∧ t.trees.map Expr.unlocated = p.map Expr.unlocated := by
  cases p with
  | nil =>
    obtain rfl := List.map_eq_nil_iff.mp hls
    exact ⟨.first none, rfl, rfl⟩
  | cons s rest =>
    obtain ⟨hs, hrest⟩ := List.forall_mem_cons.mp hp
    obtain ⟨ls₁, ls₂, rfl, hls₁, hls₂⟩ := List.map_eq_append_iff.mp hls
    obtain ⟨s', rfl, htree⟩ := Expr.derives_of_isNormal hs hls₁
    obtain ⟨t, hyield, htrees⟩ := exists_more (.first (some s')) hrest hls₂
    refine ⟨t, hyield, ?_⟩
    rw [htrees, List.map_cons, ← htree]
    rfl

/-! ### Texts -/

/-- Every text of a program in normal form is read as that program, but for places, and
without a warning. One such text has a space before each word. -/
theorem build_tokenize_written {p : Program} (hp : ∀ s ∈ p, s.isNormal .statement = true) :
    Spaced (p.written.map Prod.snd) (spacedOut (p.written.map Prod.snd)) ∧
      ∀ text, Spaced (p.written.map Prod.snd) text → ∃ ls events q,
        tokenize (Text.encode (String.ofList text)) = .ok ls ∧ build ls = (events, .ok q) ∧
        q.map Expr.unlocated = p.map Expr.unlocated ∧ ∀ e ∈ events, e.isWarning = false := by
  refine ⟨spaced_spacedOut _, ?_⟩
  intro text htext
  have hscan := tokenize_eq (Text.encode (String.ofList text))
  have hwords := map_word_tokenize hscan
  rw [Text.decode_encode, String.toList_ofList] at hscan hwords
  rw [words_spaced htext (Program.words_of_mem_written hp)] at hwords
  obtain ⟨t, hyield, htrees⟩ := Program.exists_statements hp hwords
  obtain ⟨events, hbuild, hquiet⟩ := build_yield t
  rw [hyield] at hbuild
  exact ⟨_, events, t.trees, hscan, hbuild, htrees, hquiet⟩

/-- Two statements, with an assignment in a group and a difference whose right operand is a
group. -/
def nested : Program :=
  [.assign .nowhere "a" (.binary .nowhere (.binary .nowhere (.literal .nowhere "7") (.known .mul)
      (.literal .nowhere "6")) (.known .sub) (.group .nowhere (.binary .nowhere
        (.literal .nowhere "5") (.known .sub) (.literal .nowhere "4")))),
    .ret .nowhere (.binary .nowhere (.group .nowhere (.assign .nowhere "b" (.var .nowhere "a")))
      (.known .add) (.binary .nowhere (.var .nowhere "b") (.known .div)
        (.literal .nowhere "2")))]

theorem build_tokenize_written_nested :
    (∀ s ∈ nested, s.isNormal .statement = true) ∧
      ∃ ls events q,
        tokenize (Text.encode " a = 7 * 6 - ( 5 - 4 ) ; return ( b = a ) + b / 2") = .ok ls ∧
        build ls = (events, .ok q) ∧ q.map Expr.unlocated = nested ∧
        ∀ e ∈ events, e.isWarning = false := by
  have hp : ∀ s ∈ nested, s.isNormal .statement = true := by decide +kernel
  have htext : String.ofList (spacedOut (nested.written.map Prod.snd)) =
      " a = 7 * 6 - ( 5 - 4 ) ; return ( b = a ) + b / 2" := by decide +kernel
  obtain ⟨hspaced, hparse⟩ := build_tokenize_written hp
  have hnested := hparse _ hspaced
  rw [htext] at hnested
  exact ⟨hp, hnested⟩

end ArithCompiler
