import LintReview.Text.Digit

/-!
# What a text begins with

Readers that work from left to right take off what a text must begin with and go on with
the rest.
-/

namespace LintReview.Text

/-- What follows `lead`, if the text begins with it. -/
def after? : List Char → List Char → Option (List Char)
  | [], text => some text
  | _ :: _, [] => none
  | expected :: lead, character :: text =>
    if expected = character then after? lead text else none

/-- A text begins with the lead exactly if it is the lead with the rest. -/
theorem after?_eq_some_iff {lead text rest : List Char} :
    after? lead text = some rest ↔ text = lead ++ rest := by
  induction lead generalizing text with
  | nil => simp [after?]
  | cons expected lead inductionHypothesis =>
    cases text with
    | nil => simp [after?]
    | cons character text =>
      by_cases same : expected = character
      · simp [after?, same, inductionHypothesis]
      · simp [after?, same, Ne.symm same]

/-- The digits at the start of a text, at least one, and what follows them. -/
def digitsThen? (text : List Char) : Option (List Char × List Char) :=
  let digits := text.takeWhile isDigit
  if digits.isEmpty then none else some (digits, text.dropWhile isDigit)

end LintReview.Text
