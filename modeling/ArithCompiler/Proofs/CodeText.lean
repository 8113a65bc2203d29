import ArithCompiler.Proofs.Segmentation
import ArithCompiler.Proofs.Tracking

/-!
# The text of code

An instruction whose slots are words and whose operands are registers and numerals is a row of
words without blanks, and no two such instructions have the same words (`Instr.eq_of_words_eq`).
Every line of a function's text holds one of them. So the text of a function determines its code
(`code_eq_of_lines_eq`).
-/

namespace ArithCompiler

/-! ### Spelling -/

/-- An operand that is a register or a numeral, and nothing else. -/
def Operand.isSpelled (v : Operand) : Bool :=
  decide (1 ≤ v.register) && v == .ofRegister v.register ||
    Text.isNumeral v.immediate && v == .ofImmediate v.immediate

def Instr.isSpelled : Instr → Bool
  | .alloca slot => isWord slot
  | .load r slot => decide (1 ≤ r) && isWord slot
  | .store v slot => v.isSpelled && isWord slot
  | .binary r operation v w =>
    decide (1 ≤ r) && operations.contains operation && v.isSpelled && w.isSpelled
  | .ret v => v.isSpelled

theorem Operand.isSpelled_iff {v : Operand} :
    v.isSpelled = true ↔ (∃ n : Int, 1 ≤ n ∧ v = .ofRegister n) ∨
      ∃ digits, Text.isNumeral digits = true ∧ v = .ofImmediate digits := by
  simp only [isSpelled, Bool.or_eq_true, Bool.and_eq_true, decide_eq_true_eq, beq_iff_eq]
  constructor
  · rintro (⟨hn, hv⟩ | ⟨hd, hv⟩)
    · exact .inl ⟨_, hn, hv⟩
    · exact .inr ⟨_, hd, hv⟩
  · rintro (⟨n, hn, rfl⟩ | ⟨digits, hd, rfl⟩)
    · exact .inl ⟨hn, rfl⟩
    · exact .inr ⟨hd, rfl⟩

/-! ### Numbers of registers -/

theorem toList_toString_of_pos {n : Int} (hn : 1 ≤ n) :
    (toString n).toList = Nat.toDigits 10 n.toNat := by
  have h0 : 0 ≤ n := by omega
  rw [show toString n = n.repr from rfl, Int.repr_eq_if, if_pos h0, Nat.toList_repr]

theorem eq_of_toString_eq {m n : Int} (hm : 1 ≤ m) (hn : 1 ≤ n) (h : toString m = toString n) :
    m = n := by
  have hdigits : Nat.toDigits 10 m.toNat = Nat.toDigits 10 n.toNat := by
    rw [← toList_toString_of_pos hm, ← toList_toString_of_pos hn, h]
  have hvalue := congrArg (Nat.ofDigitChars 10 · 0) hdigits
  simp only [Nat.ofDigitChars_ten_toDigits] at hvalue
  omega

theorem isDigit_of_mem_toString {n : Int} (hn : 1 ≤ n) {c : Char} (hc : c ∈ (toString n).toList) :
    isDigit c = true := by
  rw [toList_toString_of_pos hn] at hc
  have hdigit := Nat.isDigit_of_mem_toDigits (by decide) (by decide) hc
  simpa [Char.isDigit, isDigit, Char.le_def] using hdigit

/-! ### Unbroken texts -/

/-- A text without blanks. -/
def isUnbroken (s : String) : Bool := s.toList.all fun c => !Text.isBlank c

@[simp] theorem isUnbroken_append (s t : String) :
    isUnbroken (s ++ t) = (isUnbroken s && isUnbroken t) := by
  simp only [isUnbroken, String.toList_append, List.all_append]

theorem isUnbroken_of_isWord {s : String} (hs : isWord s = true) : isUnbroken s = true := by
  simp only [isWord, Bool.and_eq_true, List.all_eq_true] at hs
  simp only [isUnbroken, List.all_eq_true, Bool.not_eq_true']
  exact fun c hc => not_isBlank_of_isLetter (hs.2 c hc)

theorem isUnbroken_of_isNumeral {s : String} (hs : Text.isNumeral s = true) :
    isUnbroken s = true := by
  simp only [Text.isNumeral, Bool.and_eq_true, List.all_eq_true] at hs
  simp only [isUnbroken, List.all_eq_true, Bool.not_eq_true']
  exact fun c hc => not_isBlank_of_isDigit (hs.2 c hc)

theorem isUnbroken_toString {n : Int} (hn : 1 ≤ n) : isUnbroken (toString n) = true := by
  simp only [isUnbroken, List.all_eq_true, Bool.not_eq_true']
  exact fun c hc => not_isBlank_of_isDigit (isDigit_of_mem_toString hn hc)

theorem isUnbroken_pointerType (style : PointerStyle) : isUnbroken style.pointerType = true := by
  have hplain : isUnbroken "ptr" = true := by decide
  cases style with
  | untyped => exact hplain
  | typed => decide
  | unassigned => exact hplain

theorem isUnbroken_of_mem_operations {s : String} (hs : s ∈ operations) : isUnbroken s = true := by
  revert s
  decide

/-- A text of unbroken words shows its words. -/
theorem splitOn_intercalate_words {ws : List String} (hws : ∀ w ∈ ws, isUnbroken w = true)
    (hne : ws ≠ []) : (" ".intercalate ws).toList.splitOn ' ' = ws.map String.toList := by
  rw [String.toList_intercalate]
  refine List.splitOn_intercalate ' ' ?_ (by simpa using hne)
  intro cs hcs hblank
  obtain ⟨w, hw, rfl⟩ := List.mem_map.mp hcs
  exact absurd (List.all_eq_true.mp (hws w hw) ' ' hblank) (by decide)

theorem not_newline_of_mem_intercalate {ws : List String} (hws : ∀ w ∈ ws, isUnbroken w = true)
    {c : Char} (hc : c ∈ (" ".intercalate ws).toList) : c ≠ '\n' := by
  have hword : ∀ w ∈ ws, ∀ c ∈ w.toList, c ≠ '\n' := by
    rintro w hw _ hc rfl
    exact absurd (List.all_eq_true.mp (hws w hw) '\n' hc) (by decide)
  induction ws with
  | nil => cases hc
  | cons w ws ih =>
    cases ws with
    | nil => exact hword w (List.mem_cons_self ..) c (by simpa using hc)
    | cons u ws =>
      rw [String.intercalate_cons_cons, String.toList_append, String.toList_append,
        List.mem_append, List.mem_append] at hc
      rcases hc with (hc | hc) | hc
      · exact hword w (List.mem_cons_self ..) c hc
      · rintro rfl
        exact absurd hc (by decide)
      · exact ih (fun v hv => hws v (List.mem_cons_of_mem w hv)) hc
          fun v hv => hword v (List.mem_cons_of_mem w hv)

/-! ### Operands -/

namespace Operand

theorem render_ofRegister {n : Int} (hn : 1 ≤ n) :
    (ofRegister n).render = "%" ++ toString n := by
  have hpos : n > 0 := by omega
  simp [render, render?, ofRegister, hpos]

theorem render_ofImmediate {digits : String} (hd : Text.isNumeral digits = true) :
    (ofImmediate digits).render = digits := by
  simp [render, render?, ofImmediate, Text.ne_empty_of_isNumeral hd]

theorem isUnbroken_render {v : Operand} (hv : v.isSpelled = true) :
    isUnbroken v.render = true := by
  rcases isSpelled_iff.mp hv with ⟨n, hn, rfl⟩ | ⟨digits, hd, rfl⟩
  · rw [render_ofRegister hn, isUnbroken_append, isUnbroken_toString hn]
    rfl
  · rw [render_ofImmediate hd]
    exact isUnbroken_of_isNumeral hd

theorem not_isNumeral_percent (s : String) : Text.isNumeral ("%" ++ s) = false := by
  have hpercent : isDigit '%' = false := by decide
  simp [Text.isNumeral, String.toList_append, hpercent]

theorem eq_of_render_eq {v w : Operand} (hv : v.isSpelled = true) (hw : w.isSpelled = true)
    (h : v.render = w.render) : v = w := by
  rcases isSpelled_iff.mp hv with ⟨m, hm, rfl⟩ | ⟨digits, hd, rfl⟩ <;>
    rcases isSpelled_iff.mp hw with ⟨n, hn, rfl⟩ | ⟨digits', hd', rfl⟩
  · rw [render_ofRegister hm, render_ofRegister hn, String.append_right_inj] at h
    rw [eq_of_toString_eq hm hn h]
  · rw [render_ofRegister hm, render_ofImmediate hd'] at h
    rw [← h, not_isNumeral_percent] at hd'
    cases hd'
  · rw [render_ofImmediate hd, render_ofRegister hn] at h
    rw [h, not_isNumeral_percent] at hd
    cases hd
  · rw [render_ofImmediate hd, render_ofImmediate hd'] at h
    rw [h]

end Operand

/-! ### Instructions -/

namespace Instr

/-- The words of an instruction's text. -/
def words (style : PointerStyle) : Instr → List String
  | .alloca slot => ["%" ++ slot, "=", "alloca", "i32"]
  | .load r slot => ["%" ++ toString r, "=", "load", "i32,", style.pointerType, "%" ++ slot]
  | .store v slot => ["store", "i32", v.render ++ ",", style.pointerType, "%" ++ slot]
  | .binary r operation v w =>
    ["%" ++ toString r, "=", operation, "i32", v.render ++ ",", w.render]
  | .ret v => ["ret", "i32", v.render]

theorem render_eq_intercalate (style : PointerStyle) (i : Instr) :
    i.render style = " ".intercalate (i.words style) := by
  cases i <;> simp [render, words, String.intercalate_cons_cons, ← String.toList_inj]

theorem words_ne_nil (style : PointerStyle) (i : Instr) : i.words style ≠ [] := by
  cases i <;> simp [words]

theorem isUnbroken_words {i : Instr} (hi : i.isSpelled = true) (style : PointerStyle) :
    ∀ w ∈ i.words style, isUnbroken w = true := by
  have hpointer := isUnbroken_pointerType style
  cases i with
  | alloca slot =>
    have hslot := isUnbroken_of_isWord hi
    simp only [words, List.forall_mem_cons, isUnbroken_append, hslot, Bool.and_true]
    decide
  | load r slot =>
    simp only [isSpelled, Bool.and_eq_true, decide_eq_true_eq] at hi
    have hr := isUnbroken_toString hi.1
    have hslot := isUnbroken_of_isWord hi.2
    simp only [words, List.forall_mem_cons, isUnbroken_append, hslot, hr, hpointer, Bool.and_true]
    decide
  | store v slot =>
    simp only [isSpelled, Bool.and_eq_true] at hi
    have hv := Operand.isUnbroken_render hi.1
    have hslot := isUnbroken_of_isWord hi.2
    simp only [words, List.forall_mem_cons, isUnbroken_append, hslot, hv, hpointer, Bool.and_true]
    decide
  | binary r operation v w =>
    simp only [isSpelled, Bool.and_eq_true, decide_eq_true_eq] at hi
    have hr := isUnbroken_toString hi.1.1.1
    have ho := isUnbroken_of_mem_operations (List.contains_iff_mem.mp hi.1.1.2)
    have hv := Operand.isUnbroken_render hi.1.2
    have hw := Operand.isUnbroken_render hi.2
    simp only [words, List.forall_mem_cons, isUnbroken_append, hr, ho, hv, hw, Bool.and_true]
    decide
  | ret v =>
    have hv := Operand.isUnbroken_render hi
    simp only [words, List.forall_mem_cons, hv]
    decide

theorem words_eq_of_render_eq {i j : Instr} (hi : i.isSpelled = true) (hj : j.isSpelled = true)
    {style : PointerStyle} (h : i.render style = j.render style) :
    i.words style = j.words style := by
  have hleft := splitOn_intercalate_words (isUnbroken_words hi style) (words_ne_nil style i)
  have hright := splitOn_intercalate_words (isUnbroken_words hj style) (words_ne_nil style j)
  rw [← render_eq_intercalate] at hleft hright
  rw [h, hright] at hleft
  exact (List.map_inj_right fun _ _ => String.toList_inj.mp).mp hleft.symm

theorem eq_of_words_eq {i j : Instr} (hi : i.isSpelled = true) (hj : j.isSpelled = true)
    {style : PointerStyle} (h : i.words style = j.words style) : i = j := by
  -- the number of words tells the kinds apart, but for a load and an operation
  cases i with
  | alloca slot =>
    cases j with
    | alloca slot' =>
      simp only [words, List.cons.injEq, String.append_right_inj, and_true] at h
      rw [h]
    | _ => simp [words] at h
  | load r slot =>
    simp only [isSpelled, Bool.and_eq_true, decide_eq_true_eq] at hi
    cases j with
    | load r' slot' =>
      simp only [isSpelled, Bool.and_eq_true, decide_eq_true_eq] at hj
      simp only [words, List.cons.injEq, String.append_right_inj, and_true, true_and] at h
      rw [eq_of_toString_eq hi.1 hj.1 h.1, h.2]
    | binary r' operation v w =>
      simp only [isSpelled, Bool.and_eq_true] at hj
      simp only [words, List.cons.injEq] at h
      rw [← h.2.2.1] at hj
      exact absurd hj.1.1.2 (by decide)
    | _ => simp [words] at h
  | store v slot =>
    simp only [isSpelled, Bool.and_eq_true] at hi
    cases j with
    | store v' slot' =>
      simp only [isSpelled, Bool.and_eq_true] at hj
      simp only [words, List.cons.injEq, String.append_right_inj, String.append_left_inj, and_true,
        true_and] at h
      rw [Operand.eq_of_render_eq hi.1 hj.1 h.1, h.2]
    | _ => simp [words] at h
  | binary r operation v w =>
    simp only [isSpelled, Bool.and_eq_true, decide_eq_true_eq] at hi
    cases j with
    | binary r' operation' v' w' =>
      simp only [isSpelled, Bool.and_eq_true, decide_eq_true_eq] at hj
      simp only [words, List.cons.injEq, String.append_right_inj, String.append_left_inj, and_true,
        true_and] at h
      obtain ⟨hr, ho, hv, hw⟩ := h
      rw [eq_of_toString_eq hi.1.1.1 hj.1.1.1 hr, ho, Operand.eq_of_render_eq hi.1.2 hj.1.2 hv,
        Operand.eq_of_render_eq hi.2 hj.2 hw]
    | load r' slot' =>
      simp only [words, List.cons.injEq] at h
      rw [h.2.2.1] at hi
      exact absurd hi.1.1.2 (by decide)
    | _ => simp [words] at h
  | ret v =>
    cases j with
    | ret v' =>
      simp only [words, List.cons.injEq, and_true, true_and] at h
      rw [Operand.eq_of_render_eq hi hj h]
    | _ => simp [words] at h

theorem eq_of_render_eq {i j : Instr} (hi : i.isSpelled = true) (hj : j.isSpelled = true)
    {style : PointerStyle} (h : i.render style = j.render style) : i = j :=
  eq_of_words_eq hi hj (words_eq_of_render_eq hi hj h)

theorem not_newline_of_mem_render {i : Instr} (hi : i.isSpelled = true) {style : PointerStyle}
    {c : Char} (hc : c ∈ (i.render style).toList) : c ≠ '\n' := by
  rw [render_eq_intercalate] at hc
  exact not_newline_of_mem_intercalate (isUnbroken_words hi style) hc

end Instr

/-! ### Functions -/

/-- The lines of code and what follows them. -/
def lines (style : PointerStyle) (code : List Instr) (rest : List Char) : List Char :=
  code.flatMap (fun i => (Function.instrLine style i).toList) ++ rest

@[simp] theorem lines_nil (style : PointerStyle) (rest : List Char) : lines style [] rest = rest :=
  rfl

@[simp] theorem lines_cons (style : PointerStyle) (i : Instr) (code : List Instr)
    (rest : List Char) :
    lines style (i :: code) rest =
      ' ' :: ' ' :: ((i.render style).toList ++ '\n' :: lines style code rest) := by
  simp [lines, Function.instrLine]

theorem Function.toList_render (style : PointerStyle) (f : Function) :
    (f.render style).toList =
      (headerLine f.name).toList ++ lines style f.code footerLine.toList := by
  simp [render, parts, lines, String.toList_join, List.flatMap_map]

theorem Function.writeParts_eq_join {capacity : Nat} {ps : List (Part × String)}
    (h : (writeParts capacity ps).2 = none) :
    (writeParts capacity ps).1 = String.join (ps.map (·.2)) := by
  induction ps generalizing capacity with
  | nil => cases capacity <;> rfl
  | cons part ps ih =>
    cases capacity with
    | zero => cases h
    | succ capacity => rw [List.map_cons, String.join_cons, ← ih h, writeParts]

/-- A sink that refuses no part holds the whole text. -/
theorem Function.printTo_eq_render {capacity : Nat} {style : PointerStyle} {f : Function}
    (h : (f.printTo capacity style).2 = none) : (f.printTo capacity style).1 = f.render style :=
  writeParts_eq_join h

/-- Each line gives its instruction, and no line begins as the footer does. -/
theorem code_eq_of_lines_eq {style : PointerStyle} {code code' : List Instr}
    (hcode : ∀ i ∈ code, i.isSpelled = true) (hcode' : ∀ i ∈ code', i.isSpelled = true)
    (h : lines style code Function.footerLine.toList =
      lines style code' Function.footerLine.toList) : code = code' := by
  induction code generalizing code' with
  | nil =>
    cases code' with
    | nil => rfl
    | cons j code' => simp [Function.footerLine] at h
  | cons i code ih =>
    cases code' with
    | nil => simp [Function.footerLine] at h
    | cons j code' =>
      have hi := hcode i (List.mem_cons_self ..)
      have hj := hcode' j (List.mem_cons_self ..)
      simp only [lines_cons, List.cons.injEq, true_and] at h
      obtain ⟨htext, hrest⟩ := append_inj_of_run (· != '\n')
        (fun c hc => bne_iff_ne.mpr (Instr.not_newline_of_mem_render hi hc)) (by simp)
        (fun c hc => bne_iff_ne.mpr (Instr.not_newline_of_mem_render hj hc)) (by simp) h
      have hlines := (List.cons.inj hrest).2
      rw [Instr.eq_of_render_eq hi hj (String.toList_inj.mp htext),
        ih (fun k hk => hcode k (List.mem_cons_of_mem i hk))
          (fun k hk => hcode' k (List.mem_cons_of_mem j hk)) hlines]

/-! ### Generated functions -/

theorem Operand.Usable.isSpelled {l : Layout} {v : Operand} (hv : v.Usable l) :
    v.isSpelled = true := by
  refine Operand.isSpelled_iff.mpr ?_
  cases hv with
  | register h0 h1 => exact .inl ⟨_, h0, rfl⟩
  | immediate hd => exact .inr ⟨_, hd, rfl⟩

theorem mnemonic_mem_operations (op : Operator) : operations.contains op.mnemonic = true := by
  cases op <;> decide

theorem Instr.Moves.isSpelled {l l' : Layout} {i : Instr} (h : i.Moves l l') (hl : 1 ≤ l.next)
    (hslots : ∀ x ∈ l'.slots, isName x = true) : i.isSpelled = true := by
  cases h with
  | alloca hs => exact isWord_of_isName (hslots _ (List.mem_cons_self ..))
  | load hs => simp [Instr.isSpelled, hl, isWord_of_isName (hslots _ hs)]
  | store hv hs => simp [Instr.isSpelled, hv.isSpelled, isWord_of_isName (hslots _ hs)]
  | binary hv hw =>
    simp only [Instr.isSpelled, hl, hv.isSpelled, hw.isSpelled, mnemonic_mem_operations,
      decide_true, Bool.and_self]

theorem isSpelled_generate {p : Program} {name : String} {g : Generated} {l : Layout}
    (hp : ∀ s ∈ p, s.isStatement = true) (h : generate p name = (.ok g, l)) :
    ∀ i ∈ g.function.code, i.isSpelled = true := by
  intro i hi
  rcases (returns_generate hp h).1.exists_moves hi with ⟨l₁, l₂, hmoves, hnext, hslots⟩ | hret
  · exact hmoves.isSpelled hnext fun x hx => isName_of_mem_slots hp h x (hslots hx)
  · obtain ⟨w, rfl, hw⟩ := hret
    exact hw.isSpelled

/-- Functions of one name whose slots are words, and whose operands are registers and numerals,
are printed alike just when they have the same code; generated functions are of this kind. -/
theorem printTo_eq_iff_code_eq (style : PointerStyle) :
    (∀ {f g : Function} {m n : Nat}, f.name = g.name →
      (∀ i ∈ f.code, i.isSpelled = true) → (∀ i ∈ g.code, i.isSpelled = true) →
      (f.printTo m style).2 = none → (g.printTo n style).2 = none →
      ((f.printTo m style).1 = (g.printTo n style).1 ↔ f.code = g.code)) ∧
    ∀ {source : List UInt8} {ls : List Lexeme} {events : List BuildEvent} {p : Program}
      {name : String} {g : Generated}, tokenize source = .ok ls → build ls = (events, .ok p) →
      (generate p name).1 = .ok g → ∀ i ∈ g.function.code, i.isSpelled = true := by
  constructor
  · intro f g m n hname hf hg hprint hprint'
    rw [Function.printTo_eq_render hprint, Function.printTo_eq_render hprint',
      ← String.toList_inj, Function.toList_render, Function.toList_render, hname,
      List.append_cancel_left_eq]
    exact ⟨code_eq_of_lines_eq hf hg, fun hcode => by rw [hcode]⟩
  · intro source ls events p name g hscan hbuild hgen
    exact isSpelled_generate (isStatement_of_build hscan hbuild) (Prod.ext hgen rfl)

/-- The statements of `ret = 7; ret`. -/
def assignedRet : Program :=
  [.assign ⟨1, 5⟩ "ret" (.literal ⟨1, 7⟩ "7"), .var ⟨1, 10⟩ "ret"]

/-- A slot with the name of an instruction is stored and loaded before the return. -/
def storedRet (v : Operand) : Function :=
  ⟨"main", [.alloca "ret", .store (.ofImmediate "7") "ret", .load 1 "ret", .ret v], 1⟩

/-- A register and an immediate with the same digits are printed differently. -/
theorem printTo_eq_iff_code_eq_storedRet :
    (∃ ls events, tokenize (Text.encode "ret = 7; ret") = .ok ls ∧
      build ls = (events, .ok assignedRet)) ∧
    (generate assignedRet "main").1 = .ok ⟨storedRet (.ofRegister 1), 0⟩ ∧
    ((storedRet (.ofRegister 1)).printTo 6 .typed).2 = none ∧
    ((storedRet (.ofImmediate "1")).printTo 6 .typed).2 = none ∧
    ((storedRet (.ofRegister 1)).printTo 6 .typed).1 ≠
      ((storedRet (.ofImmediate "1")).printTo 6 .typed).1 := by
  have hscan := tokenize_eq (Text.encode "ret = 7; ret")
  have hbuild : ∃ events, build (scanned .start (Text.trim (Text.decode (Text.encode
      "ret = 7; ret")))) = (events, .ok assignedRet) :=
    ⟨_, Prod.ext rfl (by decide +kernel)⟩
  obtain ⟨events, hbuild⟩ := hbuild
  have hgen : (generate assignedRet "main").1 = .ok ⟨storedRet (.ofRegister 1), 0⟩ := by
    decide +kernel
  have hleft : ∀ i ∈ (storedRet (.ofRegister 1)).code, i.isSpelled = true :=
    (printTo_eq_iff_code_eq .typed).2 hscan hbuild hgen
  have hright : ∀ i ∈ (storedRet (.ofImmediate "1")).code, i.isSpelled = true := by
    decide
  have hprint : ((storedRet (.ofRegister 1)).printTo 6 .typed).2 = none := rfl
  have hprint' : ((storedRet (.ofImmediate "1")).printTo 6 .typed).2 = none := rfl
  have hiff := (printTo_eq_iff_code_eq .typed).1 (by rfl) hleft hright hprint hprint'
  exact ⟨⟨_, events, hscan, hbuild⟩, hgen, hprint, hprint', fun h => absurd (hiff.mp h) (by decide)⟩

end ArithCompiler
