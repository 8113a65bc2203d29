import ArithCompiler.Proofs.CodeText
import ArithCompiler.Proofs.Cutting
import ArithCompiler.Proofs.TreeText

/-!
# Dumps are comments

The dump of a program is rows of text, and so is a function. The comments in front of the function
are the rows of the dump, each behind its mark (`comments_ofRows`). No row of a function starts
with that mark, so the comments can be taken out of the text again.
-/

namespace ArithCompiler

/-- The text without the rows that start with a mark. -/
def Text.withoutRows (mark s : String) : String :=
  "\n".intercalate ((Text.split '\n' s).filter fun row => !Text.startsWith row mark)

theorem Text.withoutRows_ofRows {mark : String} (hmark : mark ≠ "") {rows : List String}
    (hrows : ∀ row ∈ rows, '\n' ∉ row.toList) :
    withoutRows mark (ofRows rows) = ofRows (rows.filter fun row => !startsWith row mark) := by
  have hlast : startsWith "" mark = false := by
    rw [Bool.eq_false_iff, ne_eq, startsWith_iff]
    rintro ⟨t, ht⟩
    exact hmark (String.append_eq_empty_iff.mp ht.symm).1
  rw [withoutRows, split_ofRows hrows, List.filter_append, ofRows_eq_intercalate]
  simp [hlast]

theorem comments_ofRows {rows : List String} (hrows : ∀ row ∈ rows, '\n' ∉ row.toList) :
    comments (Text.ofRows rows) = Text.ofRows (rows.map ("; " ++ ·)) := by
  cases rows with
  | nil => rfl
  | cons row rows =>
    have hne : row :: rows ≠ [] := List.cons_ne_nil row rows
    have htext : Text.ofRows (row :: rows) ≠ "" := by simp
    have hdrop : Text.dropEnd? "\n" (Text.ofRows (row :: rows)) =
        some ("\n".intercalate (row :: rows)) :=
      Text.dropEnd?_eq_some_iff.mpr (Text.ofRows_eq_append hne)
    rw [comments, if_neg htext, hdrop, Option.getD_some, Text.split_intercalate hrows hne,
      Text.ofRows, List.map_map]
    rfl

/-! ### Rows of dumps -/

theorem newline_not_mem_of_isUnbroken {s : String} (hs : isUnbroken s = true) :
    '\n' ∉ s.toList := by
  intro hmem
  exact absurd (List.all_eq_true.mp hs '\n' hmem) (by decide)

theorem newline_not_mem_toDigits (n : Nat) : '\n' ∉ Nat.toDigits 10 n := by
  intro hmem
  exact absurd (Nat.isDigit_of_mem_toDigits (by decide) (by decide) hmem) (by decide)

theorem Operator.newline_not_mem_symbol (op : Operator) : '\n' ∉ op.symbol.toList := by
  cases op <;> decide

theorem Expr.newline_not_mem_render {e : Expr} (he : e.isSpelled = true) :
    '\n' ∉ e.render.toList := by
  induction e with
  | hole => decide
  | literal loc digits => exact newline_not_mem_of_isUnbroken (isUnbroken_of_isNumeral he)
  | var loc name => exact newline_not_mem_of_isUnbroken (isUnbroken_of_isWord he)
  | binary loc left op right ihl ihr =>
    simp only [isSpelled, Bool.and_eq_true] at he
    cases op with
    | known op =>
      simp [render, OpCode.render, ihl he.1.1, ihr he.2, op.newline_not_mem_symbol]
    | unassigned n => cases he.1.2
  | assign loc name value ih =>
    simp only [isSpelled, Bool.and_eq_true] at he
    have hname := newline_not_mem_of_isUnbroken (isUnbroken_of_isWord he.1)
    simp [render, ih he.2, hname]
  | ret loc value ih => simp [render, ih he]
  | group loc inner ih => simp [render, ih he]

theorem exists_rows_numbered (i : Nat) {p : Program} (hp : ∀ s ∈ p, s.isSpelled = true) :
    ∃ rows, (∀ row ∈ rows, '\n' ∉ row.toList) ∧ numbered i p = Text.ofRows rows ∧
      rows.length = p.length := by
  induction p generalizing i with
  | nil => exact ⟨[], by simp, rfl, rfl⟩
  | cons s p ih =>
    obtain ⟨hs, hp⟩ := List.forall_mem_cons.mp hp
    obtain ⟨rows, hrows, htext, hlen⟩ := ih (i + 1) hp
    have hrow : '\n' ∉ ("statement " ++ toString i ++ ": " ++ s.render).toList := by
      simp [newline_not_mem_toDigits, Expr.newline_not_mem_render hs]
    refine ⟨_ :: rows, List.forall_mem_cons.mpr ⟨hrow, hrows⟩, ?_, by simp [hlen]⟩
    show _ ++ "\n" ++ numbered (i + 1) p = _
    rw [htext, Text.ofRows_cons]

theorem exists_rows_dump (mode : DumpMode) {p : Program} (hp : ∀ s ∈ p, s.isSpelled = true) :
    ∃ rows, (∀ row ∈ rows, '\n' ∉ row.toList) ∧ mode.render p = Text.ofRows rows ∧
      (mode = .sexpr → rows.length = p.length) := by
  cases mode with
  | none | unassigned => exact ⟨[], by simp, rfl, by simp⟩
  | sexpr =>
    obtain ⟨rows, hrows, htext, hlen⟩ := exists_rows_numbered 1 hp
    exact ⟨rows, hrows, htext, fun _ => hlen⟩
  | pretty =>
    -- whatever the dump is, it is cut where it has newlines, and ends with one more
    exact ⟨Text.split '\n' ("\n".intercalate (Dump.program p)),
      fun row hrow => Text.not_mem_of_mem_split hrow, (Text.ofRows_split _).symm, by simp⟩

/-! ### Rows of functions -/

namespace Function

def rows (style : PointerStyle) (f : Function) : List String :=
  ("define i32 @" ++ f.name ++ "() \x7b") ::
    f.code.map (fun i => "  " ++ i.render style) ++ ["\x7d"]

theorem mem_rows {style : PointerStyle} {f : Function} {row : String} :
    row ∈ f.rows style ↔ row = "define i32 @" ++ f.name ++ "() \x7b" ∨
      (∃ i ∈ f.code, row = "  " ++ i.render style) ∨ row = "\x7d" := by
  simp [rows, eq_comm]

theorem render_eq_ofRows (style : PointerStyle) (f : Function) :
    f.render style = Text.ofRows (f.rows style) := by
  simp [render, parts, rows, Text.ofRows, headerLine, instrLine, footerLine, ← String.toList_inj,
    String.toList_join, List.flatMap_map]

theorem newline_not_mem_rows {style : PointerStyle} {f : Function} (hname : '\n' ∉ f.name.toList)
    (hcode : ∀ i ∈ f.code, i.isSpelled = true) : ∀ row ∈ f.rows style, '\n' ∉ row.toList := by
  intro row hrow
  rcases mem_rows.mp hrow with rfl | ⟨i, hi, rfl⟩ | rfl
  · simp [hname]
  · have hinstr : '\n' ∉ (i.render style).toList :=
      fun hmem => Instr.not_newline_of_mem_render (hcode i hi) hmem rfl
    simp [hinstr]
  · decide

theorem not_startsWith_of_mem_rows {style : PointerStyle} {f : Function} {row : String}
    (hrow : row ∈ f.rows style) : Text.startsWith row ";" = false := by
  rcases mem_rows.mp hrow with rfl | ⟨i, hi, rfl⟩ | rfl
  · simp [Text.startsWith, Text.dropLead?]
  · simp [Text.startsWith, Text.dropLead?]
  · rfl

end Function

/-! ### Compiled texts -/

theorem name_generate {p : Program} {name : String} {g : Generated} {l : Layout}
    (h : generate p name = (.ok g, l)) : g.function.name = name := by
  unfold generate at h
  split at h
  · cases h
  · split at h <;> (cases h; rfl)

theorem Options.newline_not_mem_function {o : Options} (h : '\n' ∉ o.functionName.toList) :
    '\n' ∉ o.function.toList := by
  unfold function
  split
  · decide
  · exact h

theorem withoutRows_comments {style : PointerStyle} {f : Function} {rows : List String}
    (hname : '\n' ∉ f.name.toList) (hcode : ∀ i ∈ f.code, i.isSpelled = true)
    (hrows : ∀ row ∈ rows, '\n' ∉ row.toList) :
    Text.withoutRows ";" (Text.ofRows (rows.map ("; " ++ ·)) ++ f.render style) =
      f.render style := by
  have hcomments : ∀ row ∈ rows.map ("; " ++ ·), '\n' ∉ row.toList := by
    intro line hline
    obtain ⟨row, hrow, rfl⟩ := List.mem_map.mp hline
    simp [hrows row hrow]
  have hall : ∀ row ∈ rows.map ("; " ++ ·) ++ f.rows style, '\n' ∉ row.toList := by
    intro row hrow
    rcases List.mem_append.mp hrow with hrow | hrow
    · exact hcomments row hrow
    · exact Function.newline_not_mem_rows hname hcode row hrow
  have hgone : (rows.map ("; " ++ ·)).filter (fun row => !Text.startsWith row ";") = [] := by
    rw [List.filter_eq_nil_iff]
    intro line hline
    obtain ⟨row, -, rfl⟩ := List.mem_map.mp hline
    simp [Text.startsWith, Text.dropLead?]
  have hkept : (f.rows style).filter (fun row => !Text.startsWith row ";") = f.rows style := by
    rw [List.filter_eq_self]
    intro row hrow
    simp [Function.not_startsWith_of_mem_rows hrow]
  rw [Function.render_eq_ofRows, ← Text.ofRows_append, Text.withoutRows_ofRows (by decide) hall,
    List.filter_append, hgone, hkept, List.nil_append]

/-- Compiling with a dump succeeds when it does without, and its text is that of the function
behind the rows of the dump, each as a comment. A dump of S-expressions has one row for each
statement. The text without its comments is that of the function. -/
theorem compile_with_dump (o : Options) (source : List UInt8) :
    compile o source = compile { o with dump := .none } source ∧
    ∀ c, (compile o source).2 = .ok c →
      (parse source).2 = .ok c.program ∧
      ∃ rows : List String, (∀ row ∈ rows, '\n' ∉ row.toList) ∧
        c.render o = Text.ofRows (rows.map ("; " ++ ·)) ++ c.render { o with dump := .none } ∧
        Text.ofRows rows = o.dump.render c.program ∧
        (o.dump = .sexpr → rows.length = c.program.length) ∧
        ('\n' ∉ o.functionName.toList →
          Text.withoutRows ";" (c.render o) = c.render { o with dump := .none }) := by
  refine ⟨rfl, ?_⟩
  intro c hc
  obtain ⟨ls, events, g, l, hscan, hbuild, hgen, hfun⟩ := compile_eq_ok.mp hc
  have hstatements := isStatement_of_build hscan hbuild
  obtain ⟨rows, hrows, hdump, hlen⟩ := exists_rows_dump o.dump
    fun s hs => Expr.isSpelled_of_isStatement (hstatements s hs)
  have hplain : c.render { o with dump := .none } = c.function.render o.pointers :=
    String.empty_append
  have htext : c.render o =
      Text.ofRows (rows.map ("; " ++ ·)) ++ c.render { o with dump := .none } := by
    rw [hplain, Compiled.render, hdump, comments_ofRows hrows]
  refine ⟨by simp only [parse, parseText, hscan, hbuild], rows, hrows, htext, hdump.symm, hlen, ?_⟩
  intro hname
  have hfunction : '\n' ∉ c.function.name.toList := by
    rw [hfun, name_generate hgen]
    exact Options.newline_not_mem_function hname
  have hcode : ∀ i ∈ c.function.code, i.isSpelled = true := by
    rw [hfun]
    exact isSpelled_generate hstatements hgen
  rw [htext, hplain]
  exact withoutRows_comments hfunction hcode hrows

/-- What compiling `a = 2; b = a * 3` as `calc` gives. -/
def tripled : Compiled where
  program :=
    [.assign ⟨1, 3⟩ "a" (.literal ⟨1, 5⟩ "2"),
      .assign ⟨1, 10⟩ "b"
        (.binary ⟨1, 14⟩ (.var ⟨1, 12⟩ "a") (.known .mul) (.literal ⟨1, 16⟩ "3"))]
  function :=
    ⟨"calc", [.alloca "a", .store (.ofImmediate "2") "a", .load 1 "a",
      .binary 2 "mul" (.ofRegister 1) (.ofImmediate "3"), .alloca "b",
      .store (.ofRegister 2) "b", .load 3 "b", .ret (.ofRegister 3)], 3⟩

theorem compile_with_dump_tripled :
    (compile ⟨"calc", .typed, .sexpr⟩ (Text.encode "a = 2; b = a * 3")).2 = .ok tripled ∧
    (∃ rows : List String, rows.length = 2 ∧
      Text.ofRows rows = "statement 1: (= a 2)\nstatement 2: (= b (* a 3))\n" ∧
      tripled.render ⟨"calc", .typed, .sexpr⟩ =
        Text.ofRows (rows.map ("; " ++ ·)) ++ tripled.render ⟨"calc", .typed, .none⟩) ∧
    Text.withoutRows ";" (tripled.render ⟨"calc", .typed, .pretty⟩) =
      tripled.render ⟨"calc", .typed, .none⟩ := by
  have hsexpr : (compile ⟨"calc", .typed, .sexpr⟩ (Text.encode "a = 2; b = a * 3")).2 =
      .ok tripled := by
    decide +kernel
  -- the result does not depend on the dump
  have hpretty : (compile ⟨"calc", .typed, .pretty⟩ (Text.encode "a = 2; b = a * 3")).2 =
      .ok tripled := hsexpr
  obtain ⟨-, rows, -, htext, hdump, hlen, -⟩ := (compile_with_dump _ _).2 _ hsexpr
  obtain ⟨-, -, -, -, -, -, hdelete⟩ := (compile_with_dump _ _).2 _ hpretty
  exact ⟨hsexpr, ⟨rows, hlen rfl, hdump.trans (by decide +kernel), htext⟩, hdelete (by decide)⟩

end ArithCompiler
