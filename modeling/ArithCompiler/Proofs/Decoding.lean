import ArithCompiler.Text.Utf8

/-!
# Decoding inverts encoding

The bytes of a string are those of its characters, one after the other, and they
are decoded to the characters that they come from (`decode_encode`). Of any bytes,
the decoded characters are those that the encodings in them stand for, with a
replacement character for each byte that is in none (`decodes_iff`).
-/

namespace ArithCompiler.Text

/-! ### Bytes of a string -/

theorem toList_loop_eq {bs : ByteArray} {left i : Nat} (h : i + left = bs.size)
    (read : List UInt8) :
    ByteArray.toList.loop bs i read = read.reverse ++ bs.data.toList.drop i := by
  have hlen : bs.data.toList.length = bs.size := rfl
  induction left generalizing i read with
  | zero =>
    rw [ByteArray.toList.loop, if_neg (by omega), List.drop_eq_nil_of_le (by omega),
      List.append_nil]
  | succ left ih =>
    have hi : i < bs.data.toList.length := by omega
    have hget : bs.get! i = bs.data.toList[i] := getElem!_pos bs.data i hi
    rw [ByteArray.toList.loop, if_pos (by omega), ih (by omega), List.drop_eq_getElem_cons hi,
      hget, List.reverse_cons, List.append_assoc, List.singleton_append]

theorem encode_eq (s : String) : encode s = s.toList.flatMap String.utf8EncodeChar := by
  have hbytes : s.toByteArray = (s.toList.flatMap String.utf8EncodeChar).toByteArray :=
    String.utf8Encode_toList.symm
  have htoList : encode s = s.toByteArray.data.toList :=
    toList_loop_eq (Nat.zero_add s.toByteArray.size) []
  rw [htoList, hbytes, List.toList_data_toByteArray]

/-! ### Bytes as numbers -/

theorem toNat_ofNat_byte {n : Nat} (h : n < 256) : (UInt8.ofNat n).toNat = n := by
  rw [UInt8.toNat_ofNat']
  exact Nat.mod_eq_of_lt h

theorem isTail_of_toNat {b : UInt8} (h₁ : 0x80 ≤ b.toNat) (h₂ : b.toNat ≤ 0xbf) :
    isTail b = true := by
  simp [isTail, UInt8.le_iff_toNat_le, h₁, h₂]

theorem mayFollow_of_toNat {b0 b1 : UInt8} (h₁ : 0x80 ≤ b1.toNat) (h₂ : b1.toNat ≤ 0xbf)
    (he0 : b0.toNat = 0xe0 → 0xa0 ≤ b1.toNat) (hed : b0.toNat = 0xed → b1.toNat ≤ 0x9f)
    (hf0 : b0.toNat = 0xf0 → 0x90 ≤ b1.toNat) (hf4 : b0.toNat = 0xf4 → b1.toNat ≤ 0x8f) :
    mayFollow b0 b1 = true := by
  simp only [mayFollow, isTail, beq_iff_eq, ← UInt8.toNat_inj, UInt8.le_iff_toNat_le]
  simp only [UInt8.reduceToNat]
  split
  · next h => simp [he0 h, h₂]
  · split
    · next h => simp [hed h, h₁]
    · split
      · next h => simp [hf0 h, h₂]
      · split
        · next h => simp [hf4 h, h₁]
        · simp [h₁, h₂]

/-! ### Bytes of a character -/

theorem decode_ascii {b : UInt8} (h : b.toNat ≤ 0x7f) (rest : List UInt8) :
    decode (b :: rest) = Char.ofNat b.toNat :: decode rest := by
  have hlt : b < 0x80 := UInt8.lt_iff_toNat_lt.mpr (Nat.lt_succ_of_le h)
  rw [decode, if_pos hlt]

theorem decode_multibyte {b : UInt8} {rest : List UInt8} {c : Char} {k : Nat}
    (hb : 0x80 ≤ b.toNat) (h : multibyte b rest = some (c, k)) :
    decode (b :: rest) = c :: decode (rest.drop k) := by
  have hge : ¬ b < 0x80 := by
    rw [UInt8.lt_iff_toNat_lt]
    exact Nat.not_lt.mpr hb
  rw [decode, if_neg hge, h]

theorem multibyte_two {b0 b1 : UInt8} (rest : List UInt8) (h₁ : 0xc2 ≤ b0.toNat)
    (h₂ : b0.toNat ≤ 0xdf) (ht : isTail b1 = true) :
    multibyte b0 (b1 :: rest) = some (Char.ofNat (b0.toNat % 32 * 64 + payload b1), 1) := by
  simp [multibyte, UInt8.le_iff_toNat_le, h₁, h₂, ht]

theorem multibyte_three {b0 b1 b2 : UInt8} (rest : List UInt8) (h₁ : 0xe0 ≤ b0.toNat)
    (h₂ : b0.toNat ≤ 0xef) (hf : mayFollow b0 b1 = true) (ht : isTail b2 = true) :
    multibyte b0 (b1 :: b2 :: rest) =
      some (Char.ofNat ((b0.toNat % 16 * 64 + payload b1) * 64 + payload b2), 2) := by
  have hgt : ¬ b0.toNat ≤ 0xdf := by omega
  simp [multibyte, UInt8.le_iff_toNat_le, hgt, h₁, h₂, hf, ht]

theorem multibyte_four {b0 b1 b2 b3 : UInt8} (rest : List UInt8) (h₁ : 0xf0 ≤ b0.toNat)
    (h₂ : b0.toNat ≤ 0xf4) (hf : mayFollow b0 b1 = true) (ht : isTail b2 = true)
    (ht' : isTail b3 = true) :
    multibyte b0 (b1 :: b2 :: b3 :: rest) =
      some (Char.ofNat
        (((b0.toNat % 8 * 64 + payload b1) * 64 + payload b2) * 64 + payload b3), 3) := by
  have hgt : ¬ b0.toNat ≤ 0xdf := by omega
  have hgt' : ¬ b0.toNat ≤ 0xef := by omega
  simp [multibyte, UInt8.le_iff_toNat_le, hgt, hgt', h₁, h₂, hf, ht, ht']

theorem toNat_valid (c : Char) : c.toNat < 0xd800 ∨ 0xdfff < c.toNat ∧ c.toNat < 0x110000 :=
  c.valid

theorem multibyte_of_two {c : Char} (rest : List UInt8) (h₁ : 0x7f < c.toNat)
    (h₂ : c.toNat ≤ 0x7ff) :
    multibyte (UInt8.ofNat (c.toNat / 64 % 32 + 0xc0))
      (UInt8.ofNat (c.toNat % 64 + 0x80) :: rest) = some (c, 1) := by
  have hb0 := toNat_ofNat_byte (show c.toNat / 64 % 32 + 0xc0 < 256 by omega)
  have hb1 := toNat_ofNat_byte (show c.toNat % 64 + 0x80 < 256 by omega)
  have hfirst : 0xc2 ≤ (UInt8.ofNat (c.toNat / 64 % 32 + 0xc0)).toNat := by omega
  have ht : isTail (UInt8.ofNat (c.toNat % 64 + 0x80)) = true :=
    isTail_of_toNat (by omega) (by omega)
  have hm := multibyte_two rest hfirst (by omega) ht
  have hc : (c.toNat / 64 % 32 + 0xc0) % 32 * 64 + (c.toNat % 64 + 0x80) % 64 = c.toNat := by omega
  rw [payload, hb0, hb1, hc, Char.ofNat_toNat] at hm
  exact hm

theorem multibyte_of_three {c : Char} (rest : List UInt8) (h₁ : 0x7ff < c.toNat)
    (h₂ : c.toNat ≤ 0xffff) :
    multibyte (UInt8.ofNat (c.toNat / 4096 % 16 + 0xe0))
      (UInt8.ofNat (c.toNat / 64 % 64 + 0x80) :: UInt8.ofNat (c.toNat % 64 + 0x80) :: rest) =
        some (c, 2) := by
  have hvalid := toNat_valid c
  have hb0 := toNat_ofNat_byte (show c.toNat / 4096 % 16 + 0xe0 < 256 by omega)
  have hb1 := toNat_ofNat_byte (show c.toNat / 64 % 64 + 0x80 < 256 by omega)
  have hb2 := toNat_ofNat_byte (show c.toNat % 64 + 0x80 < 256 by omega)
  have hf : mayFollow (UInt8.ofNat (c.toNat / 4096 % 16 + 0xe0))
      (UInt8.ofNat (c.toNat / 64 % 64 + 0x80)) = true := by
    apply mayFollow_of_toNat <;> omega
  have ht : isTail (UInt8.ofNat (c.toNat % 64 + 0x80)) = true :=
    isTail_of_toNat (by omega) (by omega)
  have hm := multibyte_three rest (by omega) (by omega) hf ht
  have hc : ((c.toNat / 4096 % 16 + 0xe0) % 16 * 64 + (c.toNat / 64 % 64 + 0x80) % 64) * 64 +
      (c.toNat % 64 + 0x80) % 64 = c.toNat := by omega
  rw [payload, payload, hb0, hb1, hb2, hc, Char.ofNat_toNat] at hm
  exact hm

theorem multibyte_of_four {c : Char} (rest : List UInt8) (h : 0xffff < c.toNat) :
    multibyte (UInt8.ofNat (c.toNat / 262144 % 8 + 0xf0))
      (UInt8.ofNat (c.toNat / 4096 % 64 + 0x80) :: UInt8.ofNat (c.toNat / 64 % 64 + 0x80) ::
        UInt8.ofNat (c.toNat % 64 + 0x80) :: rest) = some (c, 3) := by
  have hvalid := toNat_valid c
  have hb0 := toNat_ofNat_byte (show c.toNat / 262144 % 8 + 0xf0 < 256 by omega)
  have hb1 := toNat_ofNat_byte (show c.toNat / 4096 % 64 + 0x80 < 256 by omega)
  have hb2 := toNat_ofNat_byte (show c.toNat / 64 % 64 + 0x80 < 256 by omega)
  have hb3 := toNat_ofNat_byte (show c.toNat % 64 + 0x80 < 256 by omega)
  have hf : mayFollow (UInt8.ofNat (c.toNat / 262144 % 8 + 0xf0))
      (UInt8.ofNat (c.toNat / 4096 % 64 + 0x80)) = true := by
    apply mayFollow_of_toNat <;> omega
  have ht : isTail (UInt8.ofNat (c.toNat / 64 % 64 + 0x80)) = true :=
    isTail_of_toNat (by omega) (by omega)
  have ht' : isTail (UInt8.ofNat (c.toNat % 64 + 0x80)) = true :=
    isTail_of_toNat (by omega) (by omega)
  have hm := multibyte_four rest (by omega) (by omega) hf ht ht'
  have hc : (((c.toNat / 262144 % 8 + 0xf0) % 8 * 64 + (c.toNat / 4096 % 64 + 0x80) % 64) * 64 +
      (c.toNat / 64 % 64 + 0x80) % 64) * 64 + (c.toNat % 64 + 0x80) % 64 = c.toNat := by omega
  rw [payload, payload, payload, hb0, hb1, hb2, hb3, hc, Char.ofNat_toNat] at hm
  exact hm

/-- The encoding of a character that is not ASCII is read back by `multibyte`. -/
theorem exists_multibyte {c : Char} (h : 0x7f < c.toNat) :
    ∃ b0 tail, String.utf8EncodeChar c = b0 :: tail ∧ 0x80 ≤ b0.toNat ∧
      ∀ rest, multibyte b0 (tail ++ rest) = some (c, tail.length) := by
  have hascii : ¬ c.toNat ≤ 0x7f := by omega
  simp only [String.utf8EncodeChar, Char.toNat_val, hascii, ite_false]
  split
  · have hb0 := toNat_ofNat_byte (show c.toNat / 64 % 32 + 0xc0 < 256 by omega)
    exact ⟨_, _, rfl, by omega, fun rest => multibyte_of_two rest (by omega) (by omega)⟩
  · split
    · have hb0 := toNat_ofNat_byte (show c.toNat / 4096 % 16 + 0xe0 < 256 by omega)
      exact ⟨_, _, rfl, by omega, fun rest => multibyte_of_three rest (by omega) (by omega)⟩
    · have hb0 := toNat_ofNat_byte (show c.toNat / 262144 % 8 + 0xf0 < 256 by omega)
      exact ⟨_, _, rfl, by omega, fun rest => multibyte_of_four rest (by omega)⟩

theorem utf8EncodeChar_of_ascii {c : Char} (h : c.toNat ≤ 0x7f) :
    String.utf8EncodeChar c = [UInt8.ofNat c.toNat] := by
  simp only [String.utf8EncodeChar, Char.toNat_val, h, ite_true]

theorem decode_utf8EncodeChar (c : Char) (rest : List UInt8) :
    decode (String.utf8EncodeChar c ++ rest) = c :: decode rest := by
  by_cases h : c.toNat ≤ 0x7f
  · have hb := toNat_ofNat_byte (show c.toNat < 256 by omega)
    rw [utf8EncodeChar_of_ascii h, List.singleton_append, decode_ascii (by omega), hb,
      Char.ofNat_toNat]
  · obtain ⟨b0, tail, henc, hb0, hm⟩ := exists_multibyte (c := c) (by omega)
    rw [henc, List.cons_append, decode_multibyte hb0 (hm rest), List.drop_left]

theorem decode_encode (s : String) : decode (encode s) = s.toList := by
  rw [encode_eq]
  induction s.toList with
  | nil => rw [List.flatMap_nil, decode]
  | cons c cs ih => rw [List.flatMap_cons, decode_utf8EncodeChar, ih]

/-! ### Characters of bytes -/

/-- The characters that some bytes stand for. Read from the left, the encoding of a
character stands for that character, and a byte where no encoding starts for the
replacement character. -/
inductive Decodes : List UInt8 → List Char → Prop
  | nil : Decodes [] []
  | char (c : Char) {bs : List UInt8} {cs : List Char} (h : Decodes bs cs) :
      Decodes (String.utf8EncodeChar c ++ bs) (c :: cs)
  | invalid {b : UInt8} {bs : List UInt8} {cs : List Char}
      (hb : ∀ c, ¬ String.utf8EncodeChar c <+: b :: bs) (h : Decodes bs cs) :
      Decodes (b :: bs) (replacement :: cs)

theorem toNat_ofNat {n : Nat} (h : n < 0xd800 ∨ 0xdfff < n ∧ n < 0x110000) :
    (Char.ofNat n).toNat = n := by
  have hvalid : n.isValidChar := h
  rw [Char.ofNat, dif_pos hvalid]
  rfl

theorem toNat_of_isTail {b : UInt8} (h : isTail b = true) : 0x80 ≤ b.toNat ∧ b.toNat ≤ 0xbf := by
  simpa [isTail, UInt8.le_iff_toNat_le] using h

theorem toNat_of_mayFollow {b0 b1 : UInt8} (h : mayFollow b0 b1 = true) :
    (0x80 ≤ b1.toNat ∧ b1.toNat ≤ 0xbf) ∧ (b0.toNat = 0xe0 → 0xa0 ≤ b1.toNat) ∧
      (b0.toNat = 0xed → b1.toNat ≤ 0x9f) ∧ (b0.toNat = 0xf0 → 0x90 ≤ b1.toNat) ∧
      (b0.toNat = 0xf4 → b1.toNat ≤ 0x8f) := by
  simp only [mayFollow, isTail, beq_iff_eq, ← UInt8.toNat_inj, UInt8.le_iff_toNat_le,
    UInt8.reduceToNat, Bool.ite_eq_true_distrib, Bool.and_eq_true, decide_eq_true_eq] at h
  repeat' split at h
  all_goals omega

theorem ofNat_eq_byte {b : UInt8} {n : Nat} (h : n = b.toNat) : UInt8.ofNat n = b := by
  rw [h, UInt8.ofNat_toNat]

theorem utf8EncodeChar_ofNat_ascii {b : UInt8} (h : b.toNat ≤ 0x7f) :
    String.utf8EncodeChar (Char.ofNat b.toNat) = [b] := by
  have hc := toNat_ofNat (n := b.toNat) (by omega)
  rw [utf8EncodeChar_of_ascii (by omega), hc, UInt8.ofNat_toNat]

theorem utf8EncodeChar_two {b0 b1 : UInt8} (h₁ : 0xc2 ≤ b0.toNat) (h₂ : b0.toNat ≤ 0xdf)
    (ht : isTail b1 = true) :
    String.utf8EncodeChar (Char.ofNat (b0.toNat % 32 * 64 + payload b1)) = [b0, b1] := by
  have ht1 := toNat_of_isTail ht
  unfold payload
  generalize hn : b0.toNat % 32 * 64 + b1.toNat % 64 = n
  have hc := toNat_ofNat (n := n) (by omega)
  have hgt : ¬ n ≤ 0x7f := by omega
  have hle : n ≤ 0x7ff := by omega
  simp only [String.utf8EncodeChar, Char.toNat_val, hc, hgt, hle, ite_true, ite_false]
  rw [ofNat_eq_byte (b := b0) (by omega), ofNat_eq_byte (b := b1) (by omega)]

theorem utf8EncodeChar_three {b0 b1 b2 : UInt8} (h₁ : 0xe0 ≤ b0.toNat) (h₂ : b0.toNat ≤ 0xef)
    (hf : mayFollow b0 b1 = true) (ht : isTail b2 = true) :
    String.utf8EncodeChar (Char.ofNat ((b0.toNat % 16 * 64 + payload b1) * 64 + payload b2)) =
      [b0, b1, b2] := by
  have hf1 := toNat_of_mayFollow hf
  have ht2 := toNat_of_isTail ht
  unfold payload
  generalize hn : (b0.toNat % 16 * 64 + b1.toNat % 64) * 64 + b2.toNat % 64 = n
  have hc := toNat_ofNat (n := n) (by omega)
  have hgt : ¬ n ≤ 0x7f := by omega
  have hgt' : ¬ n ≤ 0x7ff := by omega
  have hle : n ≤ 0xffff := by omega
  simp only [String.utf8EncodeChar, Char.toNat_val, hc, hgt, hgt', hle, ite_true, ite_false]
  rw [ofNat_eq_byte (b := b0) (by omega), ofNat_eq_byte (b := b1) (by omega),
    ofNat_eq_byte (b := b2) (by omega)]

theorem utf8EncodeChar_four {b0 b1 b2 b3 : UInt8} (h₁ : 0xf0 ≤ b0.toNat)
    (h₂ : b0.toNat ≤ 0xf4) (hf : mayFollow b0 b1 = true) (ht : isTail b2 = true)
    (ht' : isTail b3 = true) :
    String.utf8EncodeChar (Char.ofNat
        (((b0.toNat % 8 * 64 + payload b1) * 64 + payload b2) * 64 + payload b3)) =
      [b0, b1, b2, b3] := by
  have hf1 := toNat_of_mayFollow hf
  have ht2 := toNat_of_isTail ht
  have ht3 := toNat_of_isTail ht'
  unfold payload
  generalize hn :
    ((b0.toNat % 8 * 64 + b1.toNat % 64) * 64 + b2.toNat % 64) * 64 + b3.toNat % 64 = n
  have hc := toNat_ofNat (n := n) (by omega)
  have hgt : ¬ n ≤ 0x7f := by omega
  have hgt' : ¬ n ≤ 0x7ff := by omega
  have hgt'' : ¬ n ≤ 0xffff := by omega
  simp only [String.utf8EncodeChar, Char.toNat_val, hc, hgt, hgt', hgt'', ite_false]
  rw [ofNat_eq_byte (b := b0) (by omega), ofNat_eq_byte (b := b1) (by omega),
    ofNat_eq_byte (b := b2) (by omega), ofNat_eq_byte (b := b3) (by omega)]

theorem append_drop_of_multibyte {b0 : UInt8} {rest : List UInt8} {c : Char} {k : Nat}
    (h : multibyte b0 rest = some (c, k)) :
    String.utf8EncodeChar c ++ rest.drop k = b0 :: rest := by
  cases rest with
  | nil => cases h
  | cons b1 rest =>
    simp only [multibyte, UInt8.le_iff_toNat_le, Bool.and_eq_true, decide_eq_true_eq,
      UInt8.reduceToNat] at h
    split at h
    · next hb =>
      split at h
      · next ht =>
        cases h
        rw [utf8EncodeChar_two hb.1 hb.2 ht]
        rfl
      · cases h
    · split at h
      · next hb =>
        split at h
        · split at h
          · next ht =>
            cases h
            rw [utf8EncodeChar_three hb.1 hb.2 ht.1 ht.2]
            rfl
          · cases h
        · cases h
      · split at h
        · next hb =>
          split at h
          · split at h
            · next ht =>
              cases h
              rw [utf8EncodeChar_four hb.1 hb.2 ht.1.1 ht.1.2 ht.2]
              rfl
            · cases h
          · cases h
        · cases h

theorem not_prefix_of_multibyte {b : UInt8} {rest : List UInt8} (hb : 0x80 ≤ b.toNat)
    (h : multibyte b rest = none) (c : Char) : ¬ String.utf8EncodeChar c <+: b :: rest := by
  rintro ⟨rest', hprefix⟩
  by_cases hc : c.toNat ≤ 0x7f
  · have hbyte := toNat_ofNat_byte (show c.toNat < 256 by omega)
    rw [utf8EncodeChar_of_ascii hc, List.singleton_append] at hprefix
    cases hprefix
    omega
  · obtain ⟨b0, tail, henc, -, hm⟩ := exists_multibyte (c := c) (by omega)
    rw [henc, List.cons_append] at hprefix
    cases hprefix
    rw [hm rest'] at h
    cases h

theorem decode_invalid {b : UInt8} {rest : List UInt8}
    (h : ∀ c, ¬ String.utf8EncodeChar c <+: b :: rest) :
    decode (b :: rest) = replacement :: decode rest := by
  by_cases hb : b.toNat ≤ 0x7f
  · exact absurd ⟨rest, by rw [utf8EncodeChar_ofNat_ascii hb]; rfl⟩ (h (Char.ofNat b.toNat))
  · have hge : ¬ b < 0x80 := by
      rw [UInt8.lt_iff_toNat_lt]
      exact fun hlt => hb (Nat.le_of_lt_succ hlt)
    rw [decode, if_neg hge]
    cases hm : multibyte b rest with
    | none => rfl
    | some ck => exact absurd ⟨_, append_drop_of_multibyte hm⟩ (h ck.1)

theorem decodes_decode (bs : List UInt8) : Decodes bs (decode bs) := by
  fun_induction decode bs with
  | case1 => exact .nil
  | case2 b rest hb ih =>
    have henc := utf8EncodeChar_ofNat_ascii (Nat.le_of_lt_succ (UInt8.lt_iff_toNat_lt.mp hb))
    have hchar := Decodes.char (Char.ofNat b.toNat) ih
    rwa [henc] at hchar
  | case3 b rest hb c k h ih =>
    rw [← append_drop_of_multibyte h]
    exact .char c ih
  | case4 b rest hb h ih =>
    rw [UInt8.lt_iff_toNat_lt] at hb
    exact .invalid (not_prefix_of_multibyte (Nat.le_of_not_lt hb) h) ih

/-- Decoding is the only reading of the bytes. -/
theorem decodes_iff {bs : List UInt8} {cs : List Char} : Decodes bs cs ↔ cs = decode bs := by
  constructor
  · intro h
    induction h with
    | nil => rw [decode]
    | char c h ih => rw [decode_utf8EncodeChar, ih]
    | invalid hb h ih => rw [decode_invalid hb, ih]
  · rintro rfl
    exact decodes_decode bs

end ArithCompiler.Text
