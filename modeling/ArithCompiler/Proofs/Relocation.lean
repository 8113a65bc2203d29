import ArithCompiler.Proofs.WellFormedCode

/-!
# Moving code to other registers

Lowering takes registers one after the other, from the first free one on. So the results of
the code of a tree have consecutive numbers, and the code uses no register but these
(`numbered_lower`). From a later register on it is the same code with all its registers moved
(`lower_shift`). Both hold of all trees, also of those that no text gives.
-/

namespace ArithCompiler

/-! ### Registers of code -/

def Operand.registers (v : Operand) : List Int := if 0 < v.register then [v.register] else []

/-- The registers that an instruction defines or reads. -/
def Instr.registers (i : Instr) : List Int :=
  i.result?.toList ++ i.values.flatMap Operand.registers

/-- The operand has no register outside of `first` to `m`, which is left out. -/
def Operand.Within (first m : Int) (v : Operand) : Prop := ∀ r ∈ v.registers, first ≤ r ∧ r < m

/-- Code that numbers its results from `n` up to `m`, which is left out, and uses registers
from `first` on. -/
structure Numbered (first n : Int) (code : List Instr) (m : Int) : Prop where
  results : ∃ count : Nat, m = n + count ∧ code.filterMap Instr.result? = consecutive n count
  registers : ∀ i ∈ code, ∀ r ∈ i.registers, first ≤ r ∧ r < m

theorem consecutive_append (first : Int) (a b : Nat) :
    consecutive first a ++ consecutive (first + a) b = consecutive first (a + b) := by
  induction a generalizing first with
  | zero => simp [consecutive]
  | succ a ih =>
    have hfirst : first + ((a + 1 : Nat) : Int) = first + 1 + a := by omega
    have hcount : a + 1 + b = a + b + 1 := by omega
    rw [hfirst, hcount, consecutive, consecutive, List.cons_append, ih]

namespace Operand

theorem Within.mono {first m m' : Int} {v : Operand} (h : v.Within first m) (hm : m ≤ m') :
    v.Within first m' := by
  intro r hr
  have hin := h r hr
  exact ⟨hin.1, by omega⟩

theorem within_of_register_eq_zero {v : Operand} (h : v.register = 0) (first m : Int) :
    v.Within first m := by
  intro r hr
  simp [registers, h] at hr

theorem within_ofRegister {first n : Int} (h : first ≤ n) :
    (ofRegister n).Within first (n + 1) := by
  intro r hr
  unfold registers at hr
  split at hr
  · obtain rfl := List.mem_singleton.mp hr
    exact ⟨h, Int.lt_succ _⟩
  · cases hr

end Operand

namespace Numbered

theorem nil (first n : Int) : Numbered first n [] n where
  results := ⟨0, by simp, rfl⟩
  registers := by simp

theorem le {first n m : Int} {code : List Instr} (h : Numbered first n code m) : n ≤ m := by
  obtain ⟨count, hm, _⟩ := h.results
  omega

theorem append {first n k m : Int} {a b : List Instr} (ha : Numbered first n a k)
    (hb : Numbered first k b m) : Numbered first n (a ++ b) m where
  results := by
    obtain ⟨count, hk, hresults⟩ := ha.results
    obtain ⟨count', hm, hresults'⟩ := hb.results
    refine ⟨count + count', by omega, ?_⟩
    rw [List.filterMap_append, hresults, hresults', hk, consecutive_append]
  registers := by
    intro i hi r hr
    rcases List.mem_append.mp hi with hi | hi
    · have hin := ha.registers i hi r hr
      have hle := hb.le
      exact ⟨hin.1, by omega⟩
    · exact hb.registers i hi r hr

/-- An instruction that defines the next register. -/
theorem define {first n : Int} {i : Instr} (hfirst : first ≤ n) (hi : i.result? = some n)
    (hv : ∀ v ∈ i.values, v.Within first n) : Numbered first n [i] (n + 1) where
  results := ⟨1, rfl, by simp [hi, consecutive]⟩
  registers := by
    intro j hj r hr
    obtain rfl := List.mem_singleton.mp hj
    rw [Instr.registers, hi] at hr
    rcases List.mem_append.mp hr with hr | hr
    · obtain rfl := List.mem_singleton.mp hr
      exact ⟨hfirst, Int.lt_succ _⟩
    · obtain ⟨v, hmem, hr⟩ := List.mem_flatMap.mp hr
      exact (hv v hmem).mono (Int.le_of_lt (Int.lt_succ n)) r hr

/-- An instruction that defines no register. -/
theorem keep {first n : Int} {i : Instr} (hi : i.result? = none)
    (hv : ∀ v ∈ i.values, v.Within first n) : Numbered first n [i] n where
  results := ⟨0, by simp, by simp [hi, consecutive]⟩
  registers := by
    intro j hj r hr
    obtain rfl := List.mem_singleton.mp hj
    rw [Instr.registers, hi] at hr
    obtain ⟨v, hmem, hr⟩ := List.mem_flatMap.mp hr
    exact hv v hmem r hr

end Numbered

/-! ### Numbers of results -/

theorem numbered_readSlot {first : Int} {v : Operand} {l : Layout} (hfirst : first ≤ l.next)
    (hv : v.Within first l.next) :
    Numbered first l.next (readSlot v l).1 (readSlot v l).2.2.next ∧
      (readSlot v l).2.1.Within first (readSlot v l).2.2.next := by
  unfold readSlot
  split
  · exact ⟨.define hfirst rfl (by simp [Instr.values]), Operand.within_ofRegister hfirst⟩
  · exact ⟨.nil first l.next, hv⟩

theorem numbered_asOperand {first : Int} {e : Expr} {l l' : Layout} {code : List Instr}
    {w : Operand} (hfirst : first ≤ l.next)
    (he : ∀ {code₀ v l₀}, lower e l = (.ok (code₀, v), l₀) →
      Numbered first l.next code₀ l₀.next ∧ v.Within first l₀.next)
    (h : asOperand e (lower e l) = (.ok (code, w), l')) :
    Numbered first l.next code l'.next ∧ w.Within first l'.next := by
  obtain ⟨code₀, v, l₀, hlow, _, rfl, rfl, rfl⟩ := asOperand_eq_ok h
  obtain ⟨hcode, hv⟩ := he hlow
  obtain ⟨hreads, hw⟩ := numbered_readSlot (Int.le_trans hfirst hcode.le) hv
  exact ⟨hcode.append hreads, hw⟩

theorem numbered_lower {first : Int} {e : Expr} {l l' : Layout} {code : List Instr} {v : Operand}
    (hfirst : first ≤ l.next) (h : lower e l = (.ok (code, v), l')) :
    Numbered first l.next code l'.next ∧ v.Within first l'.next := by
  induction e generalizing l l' code v with
  | hole => cases h
  | literal loc digits =>
    cases h
    exact ⟨.nil first l.next, Operand.within_of_register_eq_zero rfl _ _⟩
  | var loc name =>
    obtain ⟨_, rfl, rfl, rfl⟩ := lower_var_eq_ok h
    exact ⟨.define hfirst rfl (by simp [Instr.values]), Operand.within_ofRegister hfirst⟩
  | binary loc left op right ihl ihr =>
    obtain ⟨o, c₁, v₁, l₁, c₂, v₂, l₂, rfl, h₁, h₂, rfl, rfl, rfl⟩ := lower_binary_eq_ok h
    obtain ⟨hc₁, hv₁⟩ := numbered_asOperand hfirst (ihl hfirst) h₁
    have hfirst₁ := Int.le_trans hfirst hc₁.le
    obtain ⟨hc₂, hv₂⟩ := numbered_asOperand hfirst₁ (ihr hfirst₁) h₂
    have hfirst₂ := Int.le_trans hfirst₁ hc₂.le
    -- the left operand was defined before the code of the right one
    have hvalues : ∀ v ∈ (Instr.binary l₂.next o.mnemonic v₁ v₂).values,
        v.Within first l₂.next := by
      simpa [Instr.values] using ⟨hv₁.mono hc₂.le, hv₂⟩
    exact ⟨(hc₁.append hc₂).append (.define hfirst₂ rfl hvalues),
      Operand.within_ofRegister hfirst₂⟩
  | assign loc name value ih =>
    obtain ⟨c, w, l₁, h₁, rfl, hslot⟩ := lower_assign_eq_ok h
    obtain ⟨hc, hw⟩ := numbered_asOperand hfirst (ih hfirst) h₁
    have hstore : Numbered first l₁.next [.store w name] l₁.next :=
      .keep rfl (by simpa [Instr.values] using hw)
    have hslotted : (Operand.ofSlot name).Within first l₁.next :=
      Operand.within_of_register_eq_zero rfl _ _
    rcases hslot with ⟨_, rfl, rfl⟩ | ⟨_, rfl, rfl⟩
    · exact ⟨hc.append hstore, hslotted⟩
    · have halloca : Numbered first l₁.next [.alloca name] l₁.next :=
        .keep rfl (by simp [Instr.values])
      exact ⟨hc.append (halloca.append hstore), hslotted⟩
  | ret loc value ih =>
    unfold lower at h
    split at h
    · cases h
    · next c w l₁ h₁ =>
      cases h
      obtain ⟨hc, hw⟩ := numbered_asOperand hfirst (ih hfirst) h₁
      have hret : Numbered first l'.next [.ret w] l'.next :=
        .keep rfl (by simpa [Instr.values] using hw)
      exact ⟨hc.append hret, Operand.within_of_register_eq_zero rfl _ _⟩
  | group loc inner ih => exact ih hfirst h

/-! ### Moving registers -/

namespace Operand

def shift (k : Nat) (v : Operand) : Operand :=
  if 0 < v.register then { v with register := v.register + k } else v

theorem shift_ofRegister (k : Nat) {n : Int} (hn : 0 < n) :
    (ofRegister n).shift k = ofRegister (n + k) := by
  simp [shift, ofRegister, hn]

theorem shift_of_register_eq_zero (k : Nat) {v : Operand} (h : v.register = 0) :
    v.shift k = v := by
  simp [shift, h]

@[simp] theorem slot_shift (k : Nat) (v : Operand) : (v.shift k).slot = v.slot := by
  unfold shift
  split <;> rfl

@[simp] theorem isSlot_shift (k : Nat) (v : Operand) : (v.shift k).isSlot = v.isSlot := by
  simp [isSlot]

@[simp] theorem isNone_shift (k : Nat) (v : Operand) : (v.shift k).isNone = v.isNone := by
  unfold shift
  split
  · next hpos =>
    -- a register that is set stays set
    have hne : v.register ≠ 0 := by omega
    have hne' : v.register + k ≠ 0 := by omega
    obtain ⟨register, immediate, slot⟩ := v
    simp_all [isNone, none]
  · rfl

end Operand

def Instr.shift (k : Nat) : Instr → Instr
  | .alloca slot => .alloca slot
  | .load r slot => .load (r + k) slot
  | .store v slot => .store (v.shift k) slot
  | .binary r operation v w => .binary (r + k) operation (v.shift k) (w.shift k)
  | .ret v => .ret (v.shift k)

def Layout.shift (k : Nat) (l : Layout) : Layout := { l with next := l.next + k }

/-- What lowering gives, with all registers moved. Errors have none. -/
def shiftLowered (k : Nat) : Lowered × Layout → Lowered × Layout
  | (.ok (code, v), l) => (.ok (code.map (Instr.shift k), v.shift k), l.shift k)
  | (.error err, l) => (.error err, l.shift k)

theorem readSlot_shift (k : Nat) (v : Operand) {l : Layout} (hl : 0 < l.next) :
    readSlot (v.shift k) (l.shift k) =
      ((readSlot v l).1.map (Instr.shift k), (readSlot v l).2.1.shift k,
        (readSlot v l).2.2.shift k) := by
  unfold readSlot
  rw [Operand.isSlot_shift]
  split
  · simp [Instr.shift, Layout.shift, Operand.shift_ofRegister k hl, Int.add_right_comm]
  · rfl

theorem next_pos_lower {e : Expr} {l l' : Layout} {code : List Instr} {v : Operand}
    (hl : 0 < l.next) (h : lower e l = (.ok (code, v), l')) : 0 < l'.next := by
  have hle := (numbered_lower (Int.le_refl l.next) h).1.le
  omega

theorem next_pos_asOperand {e : Expr} {l l' : Layout} {code : List Instr} {w : Operand}
    (hl : 0 < l.next) (h : asOperand e (lower e l) = (.ok (code, w), l')) : 0 < l'.next := by
  have hfirst := Int.le_refl l.next
  have hle := (numbered_asOperand hfirst (numbered_lower hfirst) h).1.le
  omega

theorem asOperand_shift (k : Nat) {e : Expr} {l : Layout} (hl : 0 < l.next)
    (he : lower e (l.shift k) = shiftLowered k (lower e l)) :
    asOperand e (lower e (l.shift k)) = shiftLowered k (asOperand e (lower e l)) := by
  rw [he]
  cases hlow : lower e l with
  | mk r l₁ =>
    cases r with
    | error err => rfl
    | ok cv =>
      obtain ⟨code, v⟩ := cv
      have hl₁ := next_pos_lower hl hlow
      simp only [shiftLowered, asOperand, Operand.isNone_shift]
      split
      · rfl
      · simp only [readSlot_shift k v hl₁, List.map_append]

theorem lower_shift (k : Nat) (e : Expr) {l : Layout} (hl : 0 < l.next) :
    lower e (l.shift k) = shiftLowered k (lower e l) := by
  induction e generalizing l with
  | hole => rfl
  | literal loc digits => rfl
  | var loc name =>
    unfold lower
    split
    · next hn =>
      have hn' : name ∈ l.slots := hn
      simp [hn', shiftLowered, Instr.shift, Layout.shift, Operand.shift_ofRegister k hl,
        Int.add_right_comm]
    · next hn =>
      have hn' : name ∉ l.slots := hn
      simp only [hn', ite_false, shiftLowered]
  | binary loc left op right ihl ihr =>
    have hleft := asOperand_shift k hl (ihl hl)
    simp only [lower, hleft]
    cases h₁ : asOperand left (lower left l) with
    | mk r₁ l₁ =>
      cases r₁ with
      | error err => rfl
      | ok cv₁ =>
        obtain ⟨c₁, v₁⟩ := cv₁
        have hl₁ := next_pos_asOperand hl h₁
        have hright := asOperand_shift k hl₁ (ihr hl₁)
        simp only [shiftLowered, hright]
        cases h₂ : asOperand right (lower right l₁) with
        | mk r₂ l₂ =>
          cases r₂ with
          | error err => rfl
          | ok cv₂ =>
            obtain ⟨c₂, v₂⟩ := cv₂
            have hl₂ := next_pos_asOperand hl₁ h₂
            cases op with
            | unassigned n => rfl
            | known o =>
              simp [Instr.shift, Layout.shift, Operand.shift_ofRegister k hl₂, Int.add_right_comm]
  | assign loc name value ih =>
    have hvalue := asOperand_shift k hl (ih hl)
    have hslot := Operand.shift_of_register_eq_zero k (v := .ofSlot name) rfl
    simp only [lower, hvalue]
    cases h₁ : asOperand value (lower value l) with
    | mk r l₁ =>
      cases r with
      | error err => rfl
      | ok cv =>
        obtain ⟨c, w⟩ := cv
        by_cases hn : name ∈ l₁.slots <;>
          simp [shiftLowered, Layout.shift, hn, hslot, Instr.shift]
  | ret loc value ih =>
    have hvalue := asOperand_shift k hl (ih hl)
    have hnone := Operand.shift_of_register_eq_zero k (v := .none) rfl
    simp only [lower, hvalue]
    cases asOperand value (lower value l) with
    | mk r l₁ =>
      cases r with
      | error err => rfl
      | ok cv => simp [shiftLowered, hnone, Instr.shift]
  | group loc inner ih => exact ih hl

/-- The code of a tree from register `n` on defines `n` and the registers after it, in order,
and uses no others. From register `n + k` on it is the same but for registers, which are all
larger by `k`. If there is no code from `n` on, there is none from `n + k` on, for the same
reason. -/
theorem lower_relocates (e : Expr) (slots : List String) {n : Int} (hn : 1 ≤ n) (k : Nat) :
    (∀ code v l', lower e ⟨slots, n⟩ = (.ok (code, v), l') →
      (∃ count : Nat, l'.next = n + count ∧
        code.filterMap Instr.result? = consecutive n count) ∧
      (∀ r, (∃ i ∈ code, r ∈ i.registers) ∨ r ∈ v.registers → n ≤ r ∧ r < l'.next) ∧
      lower e ⟨slots, n + k⟩ =
        (.ok (code.map (Instr.shift k), v.shift k), ⟨l'.slots, l'.next + k⟩)) ∧
    ∀ err l', lower e ⟨slots, n⟩ = (.error err, l') →
      lower e ⟨slots, n + k⟩ = (.error err, ⟨l'.slots, l'.next + k⟩) := by
  have hpos : 0 < (⟨slots, n⟩ : Layout).next := hn
  have hshift : lower e ⟨slots, n + k⟩ = shiftLowered k (lower e ⟨slots, n⟩) :=
    lower_shift k e hpos
  constructor
  · intro code v l' h
    obtain ⟨hcode, hv⟩ := numbered_lower (Int.le_refl n) h
    refine ⟨hcode.results, ?_, by rw [hshift, h]; rfl⟩
    rintro r (⟨i, hi, hr⟩ | hr)
    · exact hcode.registers i hi r hr
    · exact hv r hr
  · intro err l' h
    rw [hshift, h]
    rfl

/-- `(a = b * 2) - a`, which reads `b`. -/
def doubling : Expr :=
  .binary ⟨1, 13⟩
    (.group ⟨1, 1⟩ (.assign ⟨1, 4⟩ "a"
      (.binary ⟨1, 8⟩ (.var ⟨1, 6⟩ "b") (.known .mul) (.literal ⟨1, 10⟩ "2"))))
    (.known .sub) (.var ⟨1, 15⟩ "a")

theorem lower_relocates_doubling :
    lower doubling ⟨["b"], 3⟩ =
      (.ok ([.load 3 "b", .binary 4 "mul" (.ofRegister 3) (.ofImmediate "2"), .alloca "a",
        .store (.ofRegister 4) "a", .load 5 "a", .load 6 "a",
        .binary 7 "sub" (.ofRegister 5) (.ofRegister 6)], .ofRegister 7), ⟨["a", "b"], 8⟩) ∧
    lower doubling ⟨["b"], 10⟩ =
      (.ok ([.load 10 "b", .binary 11 "mul" (.ofRegister 10) (.ofImmediate "2"), .alloca "a",
        .store (.ofRegister 11) "a", .load 12 "a", .load 13 "a",
        .binary 14 "sub" (.ofRegister 12) (.ofRegister 13)], .ofRegister 14),
        ⟨["a", "b"], 15⟩) ∧
    lower doubling ⟨["c"], 10⟩ = (.error (.unassigned "b" ⟨1, 6⟩), ⟨["c"], 10⟩) := by
  have hcode : lower doubling ⟨["b"], 3⟩ = _ := rfl
  have herror : lower doubling ⟨["c"], 3⟩ = _ := rfl
  have hmoved := ((lower_relocates doubling ["b"] (by decide) 7).1 _ _ _ hcode).2.2
  have hfails := (lower_relocates doubling ["c"] (by decide) 7).2 _ _ herror
  exact ⟨hcode, hmoved, hfails⟩

end ArithCompiler
