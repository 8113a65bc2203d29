import ArithCompiler.Proofs.Cutting
import ArithCompiler.Suite.Case
import Mathlib.Data.String.Basic

/-!
# Selecting test cases

An identifier names a case by its name, by its path, or by what its name begins with. The case that
has the name itself is found before those whose names go on behind it: in the order of the names
it comes before them (`lt_append`).
-/

namespace ArithCompiler.Suite

/-- `t` is `s` without what `whole` puts around a text, if that stands in `s`. -/
def Trimmed (whole : String → String) (s t : String) : Prop :=
  s = whole t ∨ t = s ∧ ∀ u, s ≠ whole u

/-- The name of the case is `name`, or goes on behind it with an underscore. -/
def Case.AnswersTo (c : Case) (name : String) : Prop :=
  c.name = name ∨ ∃ rest, c.name = name ++ "_" ++ rest

/-! ### What identifiers name -/

theorem getD_eq_iff_trimmed {trimmed? : Option String} {whole : String → String} {s t : String}
    (h : ∀ u, trimmed? = some u ↔ s = whole u) :
    trimmed?.getD s = t ↔ Trimmed whole s t := by
  cases trimmed? with
  | some u =>
    have hu : s = whole u := (h u).mp rfl
    constructor
    · rintro rfl
      exact .inl hu
    · rintro (ht | ⟨-, hno⟩)
      · exact Option.some.inj ((h t).mpr ht)
      · exact absurd hu (hno u)
  | none =>
    have hno : ∀ u, s ≠ whole u := by
      intro u hu
      cases (h u).mpr hu
    constructor
    · rintro rfl
      exact .inr ⟨rfl, hno⟩
    · rintro (ht | ⟨rfl, -⟩)
      · exact absurd ht (hno t)
      · rfl

theorem identify_eq_iff {directory identifier name : String} :
    identify directory identifier = name ↔
      ∃ bare, Trimmed (· ++ ".calc") identifier bare ∧
        Trimmed (directory ++ "/" ++ ·) bare name := by
  have hending : ∀ bare, (Text.dropEnd? sourceEnding identifier).getD identifier = bare ↔
      Trimmed (· ++ ".calc") identifier bare :=
    fun bare => getD_eq_iff_trimmed fun u => Text.dropEnd?_eq_some_iff
  have hlead : ∀ bare, (Text.dropStart? (directory ++ "/") bare).getD bare = name ↔
      Trimmed (directory ++ "/" ++ ·) bare name :=
    fun bare => getD_eq_iff_trimmed fun u => Text.dropStart?_eq_some_iff
  simp only [← hending, ← hlead, exists_eq_left']
  rfl

/-- An ending without a slash is one of what stands behind the slash. -/
theorem ne_append_of_slash {directory name ending : String} (hslash : '/' ∉ ending.toList)
    (hname : ∀ u, name ≠ u ++ ending) : ∀ u, directory ++ "/" ++ name ≠ u ++ ending := by
  intro u h
  rw [← String.toList_inj, String.toList_append, String.toList_append, String.toList_append,
    List.append_eq_append_iff] at h
  rcases h with ⟨m, -, hm⟩ | ⟨m, hm, hending⟩
  · refine hname (String.ofList m) ?_
    rw [← String.toList_inj, hm, String.toList_append, String.toList_ofList]
  · have hne : m ≠ [] := by
      rintro rfl
      refine hname "" ?_
      rw [String.empty_append, ← String.toList_inj, hending, List.nil_append]
    -- the slash would be the last character of `m`
    have hlast : m.getLast hne = '/' := by
      have h := congrArg List.getLast? hm
      rw [List.getLast?_append_of_ne_nil _ hne, List.getLast?_eq_some_getLast hne] at h
      simpa using h.symm
    exact hslash (hending ▸ List.mem_append_left _ (hlast ▸ List.getLast_mem hne))

theorem identify_of_name {directory name identifier : String} (hending : ∀ u, name ≠ u ++ ".calc")
    (hlead : ∀ u, name ≠ directory ++ "/" ++ u)
    (h : identifier ∈ [name, name ++ ".calc", directory ++ "/" ++ name,
      directory ++ "/" ++ name ++ ".calc"]) : identify directory identifier = name := by
  have hpath : ∀ u, directory ++ "/" ++ name ≠ u ++ ".calc" :=
    ne_append_of_slash (by decide) hending
  rw [identify_eq_iff]
  simp only [List.mem_cons, List.not_mem_nil, or_false] at h
  rcases h with rfl | rfl | rfl | rfl
  · exact ⟨identifier, .inr ⟨rfl, hending⟩, .inr ⟨rfl, hlead⟩⟩
  · exact ⟨name, .inl rfl, .inr ⟨rfl, hlead⟩⟩
  · exact ⟨directory ++ "/" ++ name, .inr ⟨rfl, hpath⟩, .inl rfl⟩
  · exact ⟨directory ++ "/" ++ name, .inl rfl, .inl rfl⟩

/-! ### The first case -/

theorem Case.answers_iff {c : Case} {name : String} :
    c.answers name = true ↔ c.AnswersTo name := by
  simp only [answers, AnswersTo, Bool.or_eq_true, decide_eq_true_eq, Text.startsWith_iff]

theorem select_eq_ok_iff {cases : List Case} {directory identifier : String} {c : Case} :
    select cases directory identifier = .ok c ↔
      ∃ before after, cases = before ++ c :: after ∧
        c.AnswersTo (identify directory identifier) ∧
        ∀ b ∈ before, ¬b.AnswersTo (identify directory identifier) := by
  have hfind : select cases directory identifier = .ok c ↔
      cases.find? (·.answers (identify directory identifier)) = some c := by
    cases h : cases.find? (·.answers (identify directory identifier)) <;> simp [select, h]
  simp only [hfind, List.find?_eq_some_iff_append, Case.answers_iff, Bool.not_eq_true',
    ← Bool.not_eq_true]
  constructor
  · rintro ⟨hc, before, after, hcases, hbefore⟩
    exact ⟨before, after, hcases, hc, hbefore⟩
  · rintro ⟨before, after, hcases, hc, hbefore⟩
    exact ⟨hc, before, after, hcases, hbefore⟩

theorem select_eq_error_iff {cases : List Case} {directory identifier : String} {e : NotFound} :
    select cases directory identifier = .error e ↔
      e = ⟨identify directory identifier⟩ ∧
        ∀ c ∈ cases, ¬c.AnswersTo (identify directory identifier) := by
  simp only [← Case.answers_iff, ← List.find?_eq_none]
  cases h : cases.find? (·.answers (identify directory identifier)) with
  | none => simp [select, h, eq_comm]
  | some c => simp [select, h]

/-! ### Cases in order -/

theorem lt_append {s t : String} (ht : t ≠ "") : s < s ++ t := by
  have hne : t.toList ≠ [] := by simpa using ht
  rw [String.lt_iff_toList_lt, String.toList_append]
  have h : s.toList ++ [] < s.toList ++ t.toList := by
    refine List.append_left_lt ?_
    cases hcs : t.toList with
    | nil => exact absurd hcs hne
    | cons c cs => exact List.nil_lt_cons c cs
  rwa [List.append_nil] at h

theorem Case.not_answersTo_of_lt {b : Case} {name : String} (h : b.name < name) :
    ¬b.AnswersTo name := by
  rintro (hname | ⟨rest, hname⟩)
  · exact String.lt_irrefl name (hname ▸ h)
  · have hlt : name < b.name := by
      rw [hname, String.append_assoc]
      exact lt_append (by simp)
    exact String.lt_asymm h hlt

theorem select_of_sorted {cases : List Case} {directory identifier : String} {c : Case}
    (hsorted : cases.Pairwise fun a b => a.name < b.name) (hc : c ∈ cases)
    (hname : identify directory identifier = c.name) :
    select cases directory identifier = .ok c := by
  obtain ⟨before, after, rfl⟩ := List.append_of_mem hc
  rw [select_eq_ok_iff, hname]
  refine ⟨before, after, rfl, .inl rfl, ?_⟩
  intro b hb
  exact Case.not_answersTo_of_lt
    ((List.pairwise_append.mp hsorted).2.2 b hb c (List.mem_cons_self ..))

theorem pairwise_le_discover {files : FileTree} {directory : String} {cases : List Case}
    (h : discover files directory = .ok cases) : cases.Pairwise fun a b => a.name ≤ b.name := by
  have htrans : ∀ a b c : Case, decide (a.name ≤ b.name) = true →
      decide (b.name ≤ c.name) = true → decide (a.name ≤ c.name) = true := by
    intro a b c hab hbc
    exact decide_eq_true (String.le_trans (of_decide_eq_true hab) (of_decide_eq_true hbc))
  have htotal : ∀ a b : Case, (decide (a.name ≤ b.name) || decide (b.name ≤ a.name)) = true := by
    intro a b
    simpa using String.le_total a.name b.name
  unfold discover at h
  split at h
  · cases h
  · next p node _ =>
    cases hfound : casesOf files directory
        (walk files (files.nodes.length + 1) directory p node) with
    | error e => rw [hfound] at h; cases h
    | ok found =>
      rw [hfound] at h
      cases h
      exact (List.pairwise_mergeSort htrans htotal found).imp fun hab => of_decide_eq_true hab

/-- Two sources can make cases of one name, as `a.calc` and `a/.calc` do. -/
theorem pairwise_discover {files : FileTree} {directory : String} {cases : List Case}
    (h : discover files directory = .ok cases) (hnames : (cases.map Case.name).Nodup) :
    cases.Pairwise fun a b => a.name < b.name := by
  refine (pairwise_le_discover h).imp₂ ?_ (List.pairwise_map.mp hnames)
  intro a b hab hne
  exact String.not_le.mp fun hba => hne (String.le_antisymm hab hba)

/-- In the strict order of their names, every case whose name is neither a path nor the name of a
source is found by its name and by its path, with and without the ending of a source, whatever the
other cases are. An identifier finds the first case that answers to what it names, or else there
is none. Discovered cases are in that order unless two of them have the same name. -/
theorem select_first_answer (cases : List Case) (directory : String) :
    (cases.Pairwise (fun a b => a.name < b.name) →
      ∀ c ∈ cases, (∀ u, c.name ≠ u ++ ".calc") → (∀ u, c.name ≠ directory ++ "/" ++ u) →
        ∀ identifier ∈ [c.name, c.name ++ ".calc", directory ++ "/" ++ c.name,
          directory ++ "/" ++ c.name ++ ".calc"], select cases directory identifier = .ok c) ∧
    (∀ identifier, ∃ bare name, Trimmed (· ++ ".calc") identifier bare ∧
      Trimmed (directory ++ "/" ++ ·) bare name ∧
      (∀ c, select cases directory identifier = .ok c ↔
        ∃ before after, cases = before ++ c :: after ∧ c.AnswersTo name ∧
          ∀ b ∈ before, ¬b.AnswersTo name) ∧
      ∀ e, select cases directory identifier = .error e ↔
        e = ⟨name⟩ ∧ ∀ c ∈ cases, ¬c.AnswersTo name) ∧
    ∀ files, discover files directory = .ok cases → (cases.map Case.name).Nodup →
      cases.Pairwise fun a b => a.name < b.name := by
  refine ⟨?_, ?_, fun files => pairwise_discover⟩
  · intro hsorted c hc hending hlead identifier hidentifier
    exact select_of_sorted hsorted hc (identify_of_name hending hlead hidentifier)
  · intro identifier
    obtain ⟨bare, hbare, hname⟩ := identify_eq_iff.mp (Eq.refl (identify directory identifier))
    exact ⟨bare, _, hbare, hname, fun c => select_eq_ok_iff, fun e => select_eq_error_iff⟩

/-- A directory with a program `003` and one whose name goes on behind that. -/
def numberedPrograms : FileTree :=
  ⟨[(["programs"], .directory), (["programs", "003.calc"], .file [] false),
    (["programs", "003.out"], .file [] false), (["programs", "003_variables.calc"], .file [] false),
    (["programs", "003_variables.out"], .file [] false)]⟩

def numberedCases : List Case :=
  [⟨"003", "programs/003.calc", "programs/003.out", false⟩,
    ⟨"003_variables", "programs/003_variables.calc", "programs/003_variables.out", false⟩]

theorem discover_numberedPrograms :
    discover numberedPrograms "programs" = .ok numberedCases := by
  -- what is sorted is in order already
  have hnames : numberedPrograms.names ["programs"] =
      ["003.calc", "003.out", "003_variables.calc", "003_variables.out"] :=
    List.mergeSort_of_pairwise (by decide)
  have hsort : numberedCases.mergeSort (fun a b => a.name ≤ b.name) = numberedCases :=
    List.mergeSort_of_pairwise (by decide)
  have hfind : numberedPrograms.find "programs" = .ok (["programs"], .directory) := rfl
  have hwalk : walk numberedPrograms (numberedPrograms.nodes.length + 1) "programs" ["programs"]
      .directory = ["programs/003.calc", "programs/003.out", "programs/003_variables.calc",
        "programs/003_variables.out"] := by
    rw [walk, hnames]
    decide +kernel
  have hcases : casesOf numberedPrograms "programs" ["programs/003.calc", "programs/003.out",
      "programs/003_variables.calc", "programs/003_variables.out"] = .ok numberedCases := rfl
  simp only [discover, hfind, hwalk, hcases, Except.map, hsort]

theorem select_first_answer_numbered :
    discover numberedPrograms "programs" = .ok numberedCases ∧
    (∀ identifier ∈ ["003", "003" ++ ".calc", "programs" ++ "/" ++ "003",
      "programs" ++ "/" ++ "003" ++ ".calc"], select numberedCases "programs" identifier =
        .ok ⟨"003", "programs/003.calc", "programs/003.out", false⟩) ∧
    ∃ bare name, Trimmed (· ++ ".calc") "00.calc" bare ∧
      Trimmed ("programs" ++ "/" ++ ·) bare name ∧
      select numberedCases "programs" "00.calc" = .error ⟨name⟩ := by
  obtain ⟨hfound, hfirst, hdiscovered⟩ := select_first_answer numberedCases "programs"
  have hsorted := hdiscovered numberedPrograms discover_numberedPrograms (by decide)
  have hending : ∀ u, "003" ≠ u ++ ".calc" := by
    intro u h
    cases Text.dropEnd?_eq_some_iff.mpr h
  have hlead : ∀ u, "003" ≠ "programs" ++ "/" ++ u := by
    intro u h
    cases Text.dropStart?_eq_some_iff.mpr h
  obtain ⟨bare, name, hbare, hname, -, herror⟩ := hfirst "00.calc"
  have hnone : select numberedCases "programs" "00.calc" = .error ⟨"00"⟩ := rfl
  have hmissing := (herror ⟨"00"⟩).mp hnone
  exact ⟨discover_numberedPrograms, hfound hsorted _ (List.mem_cons_self ..) hending hlead,
    bare, name, hbare, hname, (herror ⟨name⟩).mpr ⟨rfl, hmissing.2⟩⟩

end ArithCompiler.Suite
