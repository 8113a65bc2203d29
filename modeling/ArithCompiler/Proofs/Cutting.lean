import ArithCompiler.Text.Pieces

/-!
# Cutting texts

A text is its pieces with the separators between them, and no piece has a separator in it. So rows
of text without newlines, each ended by one, can be told from the text (`split_ofRows`). A
beginning or an ending is dropped just where it stands.
-/

namespace ArithCompiler.Text

/-! ### Pieces -/

theorem pieces_eq_splitOn (sep : Char) (cs : List Char) : pieces sep cs = cs.splitOn sep := by
  induction cs with
  | nil => rfl
  | cons c cs ih =>
    rw [List.splitOn_cons_eq_if_modifyHead, ← ih, pieces]
    by_cases hc : c = sep
    · simp [hc]
    · simp only [hc, beq_iff_eq, ite_false]
      cases hp : pieces sep cs with
      | nil => exact absurd hp (pieces_ne_nil sep cs)
      | cons p ps => rfl

theorem not_mem_of_mem_pieces {sep : Char} {cs p : List Char} (h : p ∈ pieces sep cs) :
    sep ∉ p := by
  induction cs generalizing p with
  | nil =>
    obtain rfl := List.mem_singleton.mp h
    simp
  | cons c cs ih =>
    rw [pieces] at h
    split at h
    · rcases List.mem_cons.mp h with rfl | h
      · simp
      · exact ih h
    · next hc =>
      split at h
      · next hnil => exact absurd hnil (pieces_ne_nil sep cs)
      · next q ps hps =>
        rcases List.mem_cons.mp h with rfl | h
        · have hq : sep ∉ q := ih (hps ▸ List.mem_cons_self ..)
          simp [hq, Ne.symm hc]
        · exact ih (hps ▸ List.mem_cons_of_mem q h)

theorem not_mem_of_mem_split {sep : Char} {s row : String} (h : row ∈ split sep s) :
    sep ∉ row.toList := by
  obtain ⟨p, hp, rfl⟩ := List.mem_map.mp h
  rw [String.toList_ofList]
  exact not_mem_of_mem_pieces hp

theorem split_ne_nil (sep : Char) (s : String) : split sep s ≠ [] := by
  simp [split, pieces_ne_nil]

theorem intercalate_split (s : String) : "\n".intercalate (split '\n' s) = s := by
  have hlist : (split '\n' s).map String.toList = s.toList.splitOn '\n' := by
    simp [split, pieces_eq_splitOn, Function.comp_def]
  rw [← String.toList_inj, String.toList_intercalate, hlist]
  exact List.intercalate_splitOn '\n'

theorem split_intercalate {rows : List String} (hrows : ∀ row ∈ rows, '\n' ∉ row.toList)
    (hne : rows ≠ []) : split '\n' ("\n".intercalate rows) = rows := by
  have hlist : ∀ l ∈ rows.map String.toList, '\n' ∉ l := by
    intro l hl
    obtain ⟨row, hrow, rfl⟩ := List.mem_map.mp hl
    exact hrows row hrow
  have hcut := List.splitOn_intercalate '\n' hlist (by simpa using hne)
  rw [split, pieces_eq_splitOn, String.toList_intercalate]
  simp only [show "\n".toList = ['\n'] from rfl, hcut, List.map_map, Function.comp_def,
    String.ofList_toList, List.map_id']

/-! ### Rows -/

/-- The text of some rows, each ended by a newline. -/
def ofRows (rows : List String) : String := String.join (rows.map (· ++ "\n"))

@[simp] theorem ofRows_nil : ofRows [] = "" := rfl

@[simp] theorem ofRows_cons (row : String) (rows : List String) :
    ofRows (row :: rows) = row ++ "\n" ++ ofRows rows := by
  simp [ofRows]

theorem ofRows_append (rows rows' : List String) :
    ofRows (rows ++ rows') = ofRows rows ++ ofRows rows' := by
  simp [ofRows]

/-- After the last newline there is one more, empty piece. -/
theorem ofRows_eq_intercalate (rows : List String) :
    ofRows rows = "\n".intercalate (rows ++ [""]) := by
  induction rows with
  | nil => rfl
  | cons row rows ih =>
    rw [ofRows_cons, ih, List.cons_append, String.intercalate_cons_of_ne_nil (by simp)]

theorem ofRows_eq_append {rows : List String} (hne : rows ≠ []) :
    ofRows rows = "\n".intercalate rows ++ "\n" := by
  rw [ofRows_eq_intercalate, String.intercalate_append_of_ne_nil hne (by simp)]
  simp

theorem ofRows_split (s : String) : ofRows (split '\n' s) = s ++ "\n" := by
  rw [ofRows_eq_append (split_ne_nil '\n' s), intercalate_split]

theorem split_ofRows {rows : List String} (hrows : ∀ row ∈ rows, '\n' ∉ row.toList) :
    split '\n' (ofRows rows) = rows ++ [""] := by
  rw [ofRows_eq_intercalate]
  refine split_intercalate ?_ (by simp)
  intro row hrow
  rcases List.mem_append.mp hrow with hrow | hrow
  · exact hrows row hrow
  · obtain rfl := List.mem_singleton.mp hrow
    simp

/-! ### Beginnings and endings -/

theorem dropLead?_eq_some_iff {α : Type} [DecidableEq α] {lead cs t : List α} :
    dropLead? lead cs = some t ↔ cs = lead ++ t := by
  induction lead generalizing cs with
  | nil => simp [dropLead?]
  | cons a lead ih =>
    cases cs with
    | nil => simp [dropLead?]
    | cons c cs =>
      by_cases hac : a = c
      · simp [dropLead?, hac, ih]
      · simp [dropLead?, hac, Ne.symm hac]

theorem dropStart?_eq_some_iff {lead s t : String} :
    dropStart? lead s = some t ↔ s = lead ++ t := by
  simp only [dropStart?, Option.map_eq_some_iff, dropLead?_eq_some_iff, ← String.toList_inj,
    String.toList_append]
  constructor
  · rintro ⟨cs, hcs, ht⟩
    rw [hcs, ← ht, String.toList_ofList]
  · intro h
    exact ⟨t.toList, h, by rw [String.toList_ofList]⟩

theorem dropEnd?_eq_some_iff {ending s t : String} :
    dropEnd? ending s = some t ↔ s = t ++ ending := by
  simp only [dropEnd?, Option.map_eq_some_iff, dropLead?_eq_some_iff, ← String.toList_inj,
    String.toList_append]
  constructor
  · rintro ⟨cs, hcs, ht⟩
    rw [← ht, String.toList_ofList, ← List.reverse_inj, hcs]
    simp
  · intro h
    exact ⟨t.toList.reverse, by rw [h, List.reverse_append], by simp⟩

theorem startsWith_iff {s lead : String} : startsWith s lead = true ↔ ∃ t, s = lead ++ t := by
  simp only [startsWith, Option.isSome_iff_exists, dropLead?_eq_some_iff, ← String.toList_inj,
    String.toList_append]
  constructor
  · rintro ⟨cs, hcs⟩
    exact ⟨String.ofList cs, by rw [hcs, String.toList_ofList]⟩
  · rintro ⟨t, ht⟩
    exact ⟨t.toList, ht⟩

end ArithCompiler.Text
