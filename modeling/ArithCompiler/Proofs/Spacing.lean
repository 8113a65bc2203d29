import ArithCompiler.Proofs.Expressions

/-!
# Words with white space between them

A text is made of words by putting white space between them, of any kind and length. It
can be left out where two words do not run together (`Spaced`). Scanning such a text gives
the words back (`words_spaced`), if each of them is a word by itself.
-/

namespace ArithCompiler

/-- The texts of some words. -/
inductive Spaced : List String → List Char → Prop
  | nil (b : Blanks) : Spaced [] b.val
  | cons (b : Blanks) (w : String) {ws : List String} {t : List Char} (h : Spaced ws t)
    (hsep : Separate w.toList t) : Spaced (w :: ws) (b.val ++ (w.toList ++ t))

theorem words_spaced {ws : List Word} {t : List Char} (h : Spaced (ws.map Prod.snd) t)
    (hws : ∀ w ∈ ws, words w.2.toList = [w]) : words t = ws := by
  induction ws generalizing t with
  | nil =>
    cases h with
    | nil b =>
      have hb := words_append_blanks [] b.property
      rwa [List.nil_append, words_nil] at hb
  | cons w ws ih =>
    cases h with
    | cons b _ h hsep =>
      have hrest := ih h fun v hv => hws v (List.mem_cons_of_mem _ hv)
      rw [words_blanks_append b.property, words_append hsep, hws w (List.mem_cons_self ..), hrest,
        List.singleton_append]

/-- The text in which a space stands before each word. -/
def spacedOut (ws : List String) : List Char := ws.flatMap fun w => ' ' :: w.toList

theorem isAlone_head_spacedOut (ws : List String) :
    ∀ c ∈ (spacedOut ws).head?, isAlone c = true := by
  intro c hc
  cases ws with
  | nil => cases hc
  | cons w ws =>
    cases hc
    exact isAlone_of_isBlank Text.isBlank_space

theorem spaced_spacedOut (ws : List String) : Spaced ws (spacedOut ws) := by
  induction ws with
  | nil => exact .nil .empty
  | cons w ws ih =>
    have hsep : Separate w.toList (spacedOut ws) :=
      separate_of_head w.toList (isAlone_head_spacedOut ws)
    exact .cons .space w ih hsep

end ArithCompiler
