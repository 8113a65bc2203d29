/-!
# Cutting and searching texts
-/

namespace ArithCompiler.Text

/-- The pieces between separators: one more than there are separators. -/
def pieces (sep : Char) : List Char → List (List Char)
  | [] => [[]]
  | c :: cs =>
    if c = sep then [] :: pieces sep cs
    else
      match pieces sep cs with
      | [] => [[c]]
      | p :: ps => (c :: p) :: ps

theorem pieces_ne_nil (sep : Char) (cs : List Char) : pieces sep cs ≠ [] := by
  cases cs with
  | nil => simp [pieces]
  | cons c cs => simp only [pieces]; split <;> (try split) <;> simp

/-- The pieces of a text between separators. -/
def split (sep : Char) (s : String) : List String := (pieces sep s.toList).map String.ofList

/-- Drops `lead` from the front of a list, if it is there. -/
def dropLead? {α : Type} [DecidableEq α] : (lead cs : List α) → Option (List α)
  | [], cs => some cs
  | _ :: _, [] => none
  | a :: lead, c :: cs => if a = c then dropLead? lead cs else none

/-- Whether `part` occurs in a list. -/
def occurs {α : Type} [DecidableEq α] (part : List α) : List α → Bool
  | [] => part.isEmpty
  | c :: cs => (dropLead? part (c :: cs)).isSome || occurs part cs

/-- Whether a text starts with another. -/
def startsWith (s lead : String) : Bool := (dropLead? lead.toList s.toList).isSome

/-- Whether a text holds another. -/
def contains (s part : String) : Bool := occurs part.toList s.toList

/-- The text without an ending, if it has it. -/
def dropEnd? (ending s : String) : Option String :=
  (dropLead? ending.toList.reverse s.toList.reverse).map fun cs => String.ofList cs.reverse

/-- The text without a beginning, if it has it. -/
def dropStart? (lead s : String) : Option String :=
  (dropLead? lead.toList s.toList).map String.ofList

end ArithCompiler.Text
