/-!
# Words of a list

A word is looked for in a list of words.
-/

namespace LintReview.Text

/-- The text is one of the words. -/
def isOneOf (words : List (List Char)) (text : List Char) : Bool := text ∈ words

/-- A text is one of the words exactly if it is a member of their list. -/
theorem isOneOf_iff {words : List (List Char)} {text : List Char} :
    isOneOf words text = true ↔ text ∈ words := by
  simp [isOneOf]

end LintReview.Text
