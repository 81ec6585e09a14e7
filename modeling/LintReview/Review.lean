import LintReview.Checker.Basic
import LintReview.Diff.Position
import LintReview.Source.FileName

/-!
# Comments on the lines of a change

A finding in a file that failed becomes a comment if it names that file and its row has a
position in the file's patch. Comments are posted in batches, because a review takes only
so many.
-/

namespace LintReview.Review

/-- The comment on a finding in a file with the given patch. -/
def commentOn? (checker : Checker) (file : String) (patch : Diff.Patch) (diagnostic : Diagnostic) :
    Option Github.InlineComment :=
  if Source.meansFile diagnostic.file.toList file.toList then
    (Diff.position? patch.spans diagnostic.row).map fun position =>
      ⟨file, position, checker.commentBody diagnostic⟩
  else none

/-- The comments on files that failed, in order. Each of them must be in the change. -/
def commentsOnFiles (checker : Checker) (change : Diff.Change) :
    List (String × FileResult) → Except Failure (List Github.InlineComment)
  | [] => .ok []
  | (file, result) :: rest =>
    match change.find? file with
    | none => .error (.missingPatch file checker.title)
    | some patch => do
      let others ← commentsOnFiles checker change rest
      return result.diagnostics.filterMap (commentOn? checker file patch) ++ others

/-- The comments that a checker makes on a change. -/
def commentsOf (change : Diff.Change) (checker : Checker) :
    Except Failure (List Github.InlineComment) :=
  commentsOnFiles checker change checker.report.failed

/-- The comments that checkers make on a change, one after the other. -/
def comments (change : Diff.Change) (checkers : List Checker) :
    Except Failure (List Github.InlineComment) := do
  return (← checkers.mapM (commentsOf change)).flatten

/-- A list cut into parts of a size, of which the last may be shorter. There are no parts
    of size nought. -/
def batches {α : Type} (size : Nat) (items : List α) : List (List α) :=
  if _positive : 0 < size ∧ items ≠ [] then
    items.take size :: batches size (items.drop size)
  else []
termination_by items.length
decreasing_by
  have nonempty : 0 < items.length := List.length_pos_iff.2 _positive.2
  simp only [List.length_drop]
  omega

end LintReview.Review
