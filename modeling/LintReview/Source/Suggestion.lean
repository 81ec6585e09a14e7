import LintReview.Source.Alignment
import LintReview.Text.Lines

/-!
# Suggestions for single rows

A suggestion replaces one row of a file by formatted text. A changed segment gives one
only if it covers exactly one old line and has new lines in its place, because a
suggestion on a row replaces that row and no more.
-/

namespace LintReview.Source

/-- The text that is to replace a row. -/
structure Suggestion where
  /-- The row in the old text, from 1. -/
  row : Nat
  text : String
  deriving Repr, DecidableEq

/-- The text with the given lines. -/
def joinLines (lines : List String) : String :=
  String.ofList (Text.join ['\n'] (lines.map String.toList))

/-- The lines of a text, cut at each newline. -/
def cutLines (text : String) : List String :=
  (Text.split '\n' text.toList).map String.ofList

/-- The suggestions of segments of which the first starts after `above` old lines. -/
def suggestionsBelow (above : Nat) : List (Segment String) → List Suggestion
  | [] => []
  | .changed [_] (first :: others) :: rest =>
    ⟨above + 1, joinLines (first :: others)⟩ :: suggestionsBelow (above + 1) rest
  | segment :: rest => suggestionsBelow (above + segment.oldLines.length) rest

/-- The rows of `current` that `formatted` changes one for one or more, with the text
    that takes their place, by increasing row. -/
def suggestions (current formatted : String) : List Suggestion :=
  suggestionsBelow 0 (align (cutLines current) (cutLines formatted))

/-- The text suggested for a row. -/
def suggested? (known : List Suggestion) (row : Nat) : Option String :=
  (known.find? (·.row = row)).map Suggestion.text

/-- Every suggested row lies below the rows above the segments. -/
theorem above_lt_row {above : Nat} {segments : List (Segment String)} {suggestion : Suggestion}
    (suggests : suggestion ∈ suggestionsBelow above segments) : above < suggestion.row := by
  fun_induction suggestionsBelow above segments with
  | case1 => simp at suggests
  | case2 above old first others rest inductionHypothesis =>
    rcases List.mem_cons.1 suggests with same | later
    · rw [same]; exact Nat.lt_succ_self above
    · exact Nat.lt_of_succ_lt (inductionHypothesis later)
  | case3 above segment rest _ inductionHypothesis =>
    exact Nat.lt_of_le_of_lt (Nat.le_add_right _ _) (inductionHypothesis suggests)

end LintReview.Source
