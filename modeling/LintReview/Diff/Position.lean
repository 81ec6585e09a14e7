import LintReview.Diff.Hunk

/-!
# Positions in a diff

An inline comment is anchored by its position: the number of lines from a file's first
hunk header down, counted through all hunks. A diagnostic names a row of the new file.
`position?` finds the hunk that covers the row and counts every line of the hunks before.

A hunk covers one row more than it has lines in the new file: the row directly after it.
-/

namespace LintReview.Diff

/-- The row is one of the hunk's rows in the new file, or the one after them. -/
def Span.covers (span : Span) (row : Int) : Bool :=
  span.newStart ≤ row && row ≤ span.newStart + span.newLines

/-- The position of a row, where `before` lines stand in earlier hunks. -/
def positionAfter (before : Int) (row : Int) : List Span → Option Int
  | [] => none
  | span :: rest =>
    if span.covers row then some (before + row - span.newStart + 1)
    else positionAfter (before + span.lineCount) row rest

/-- The position of a row of the new file: none if no hunk covers it. -/
def position? (spans : List Span) (row : Int) : Option Int :=
  positionAfter 0 row spans

/-- Lines of earlier hunks shift the position and decide nothing else. -/
theorem positionAfter_eq_map (before row : Int) (spans : List Span) :
    positionAfter before row spans = (positionAfter 0 row spans).map (before + ·) := by
  induction spans generalizing before with
  | nil => rfl
  | cons span rest inductionHypothesis =>
    unfold positionAfter
    split
    · simp only [Option.map_some, Option.some.injEq]
      omega
    · rw [inductionHypothesis (before + span.lineCount), inductionHypothesis (0 + span.lineCount)]
      simp only [Option.map_map]
      congr 1
      funext position
      simp only [Function.comp_apply]
      omega

/-- A row has a position exactly if some hunk covers it. -/
theorem position?_isSome_iff (spans : List Span) (row : Int) :
    (position? spans row).isSome ↔ ∃ span ∈ spans, span.covers row := by
  unfold position?
  induction spans with
  | nil => simp [positionAfter]
  | cons span rest inductionHypothesis =>
    unfold positionAfter
    by_cases covered : span.covers row
    · simp [covered]
    · rw [positionAfter_eq_map]
      simp [covered, inductionHypothesis]

end LintReview.Diff
