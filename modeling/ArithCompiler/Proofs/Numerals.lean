import ArithCompiler.Lexeme.Scan
import ArithCompiler.Text.Numeral

/-!
# Numerals and their values

A numeral is a text of one or more digits. It stands for a number of any size;
reading it gives that number exactly if it is below the limit.
-/

namespace ArithCompiler.Text

/-- A text of digits. -/
def isNumeral (s : String) : Bool := !s.toList.isEmpty && s.toList.all isDigit

/-- The value of digits that follow those that gave `n`. -/
def decimalFrom (n : Nat) (cs : List Char) : Nat := cs.foldl (fun n c => n * 10 + (c.toNat - 48)) n

/-- The number that a numeral stands for. -/
def decimal (s : String) : Nat := decimalFrom 0 s.toList

@[simp] theorem decimalFrom_nil (n : Nat) : decimalFrom n [] = n := rfl

@[simp] theorem decimalFrom_cons (n : Nat) (c : Char) (cs : List Char) :
    decimalFrom n (c :: cs) = decimalFrom (n * 10 + (c.toNat - 48)) cs := by
  simp only [decimalFrom, List.foldl_cons]

theorem le_decimalFrom (n : Nat) (cs : List Char) : n ≤ decimalFrom n cs := by
  induction cs generalizing n with
  | nil => exact Nat.le_refl n
  | cons c cs ih =>
    have h := ih (n * 10 + (c.toNat - 48))
    rw [decimalFrom_cons]
    omega

theorem digitValue?_of_isDigit {c : Char} (hc : isDigit c = true) :
    digitValue? c = some (c.toNat - 48) := by
  unfold digitValue?
  exact if_pos hc

theorem readDigits_eq (limit n : Nat) (cs : List Char) (hcs : cs.all isDigit = true)
    (hn : n < limit) :
    readDigits limit n cs =
      if decimalFrom n cs < limit then .ok (decimalFrom n cs) else .error .outOfRange := by
  induction cs generalizing n with
  | nil => simp only [readDigits, decimalFrom_nil, hn, ite_true]
  | cons c cs ih =>
    simp only [List.all_cons, Bool.and_eq_true] at hcs
    simp only [readDigits, digitValue?_of_isDigit hcs.1, decimalFrom_cons]
    by_cases hlt : n * 10 + (c.toNat - 48) < limit
    · rw [if_pos hlt]
      exact ih _ hcs.2 hlt
    · -- once the value has left the range, more digits do not bring it back
      have hle := le_decimalFrom (n * 10 + (c.toNat - 48)) cs
      rw [if_neg hlt, if_neg (by omega)]

theorem readUnsigned_eq {limit : Nat} {s : String} (hs : isNumeral s = true) (hl : 0 < limit) :
    readUnsigned limit s =
      if decimal s < limit then .ok (decimal s) else .error .outOfRange := by
  simp only [isNumeral, Bool.and_eq_true] at hs
  unfold readUnsigned decimal
  cases hcs : s.toList with
  | nil => simp [hcs] at hs
  | cons c cs =>
    rw [hcs] at hs
    exact readDigits_eq limit 0 (c :: cs) hs.2 hl

theorem all_isDigit_of_readDigits {limit n m : Nat} {cs : List Char}
    (h : readDigits limit n cs = .ok m) : cs.all isDigit = true := by
  induction cs generalizing n with
  | nil => rfl
  | cons c cs ih =>
    by_cases hc : isDigit c = true
    · simp only [readDigits, digitValue?_of_isDigit hc] at h
      split at h
      · simp [hc, ih h]
      · cases h
    · have hnone : digitValue? c = none := if_neg hc
      simp [readDigits, hnone] at h

theorem readUnsigned_eq_ok_iff {limit n : Nat} {s : String} (hl : 0 < limit) :
    readUnsigned limit s = .ok n ↔ isNumeral s = true ∧ decimal s < limit ∧ n = decimal s := by
  by_cases hs : isNumeral s = true
  · rw [readUnsigned_eq hs hl]
    by_cases hlt : decimal s < limit
    · simp [hs, hlt, eq_comm]
    · simp [hlt]
  · simp only [hs, Bool.false_eq_true, false_and, iff_false]
    intro h
    unfold readUnsigned at h
    cases hcs : s.toList with
    | nil => simp [hcs] at h
    | cons c cs =>
      rw [hcs] at h
      have hall : (c :: cs).all isDigit = true := all_isDigit_of_readDigits h
      exact hs (by simp only [isNumeral, hcs, hall, List.isEmpty_cons, Bool.not_false, Bool.and_self])

theorem ne_empty_of_isNumeral {s : String} (hs : isNumeral s = true) : s ≠ "" := by
  rintro rfl
  exact absurd hs (by decide)

end ArithCompiler.Text
