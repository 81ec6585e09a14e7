/-!
# Alignment of two texts

Two lists of lines are aligned by the longest block that both contain: the lines before
the block are aligned among themselves, and so are the lines after it. Of several
longest blocks the one that starts first in the old lines is taken, and among those the
one that starts first in the new lines. Where nothing is left in common, the old lines
are changed into the new ones.

The segments of an alignment, read on the old side, are the old lines, and on the new
side the new ones (`oldLines_align`, `newLines_align`).
-/

namespace LintReview.Source

variable {α : Type} [DecidableEq α]

/-- The number of items at the start of two lists that agree. -/
def agreement : List α → List α → Nat
  | item :: rest, other :: others => if item = other then agreement rest others + 1 else 0
  | _, _ => 0

/-- The agreeing items are the same in both lists. -/
theorem take_agreement (first second : List α) :
    first.take (agreement first second) = second.take (agreement first second) := by
  fun_induction agreement first second with
  | case1 item rest others inductionHypothesis => simp [inductionHypothesis]
  | case2 => simp
  | case3 => simp

/-- No more items agree than the first list has. -/
theorem agreement_le_length (first second : List α) : agreement first second ≤ first.length := by
  fun_induction agreement first second with
  | case1 item rest others inductionHypothesis => simpa using inductionHypothesis
  | case2 => simp
  | case3 => simp

/-- A run of lines in the old and in the new text. -/
structure Block where
  oldStart : Nat
  newStart : Nat
  size : Nat
  deriving Repr, DecidableEq

/-- The larger of two blocks; the first if they have the same size. -/
def Block.larger (best next : Block) : Block :=
  if best.size < next.size then next else best

/-- The largest of `best` and the blocks that start with the first of the old lines,
    which has index `oldStart`. The first of the new lines has index `newStart`. -/
def largestAt (old : List α) (oldStart : Nat) : Nat → List α → Block → Block
  | _, [], best => best
  | newStart, line :: rest, best =>
    largestAt old oldStart (newStart + 1) rest
      (best.larger ⟨oldStart, newStart, agreement old (line :: rest)⟩)

/-- The largest of `best` and the blocks in old lines of which the first has index
    `oldStart`. -/
def largestFrom (new : List α) : Nat → List α → Block → Block
  | _, [], best => best
  | oldStart, line :: rest, best =>
    largestFrom new (oldStart + 1) rest (largestAt (line :: rest) oldStart 0 new best)

/-- The largest common block of two texts. Its size is zero if no line is in both. -/
def largestBlock (old new : List α) : Block :=
  largestFrom new 0 old ⟨0, 0, 0⟩

/-- The lines of a block are in both texts, at the places it names. -/
def Block.IsCommon (old new : List α) (block : Block) : Prop :=
  block.size ≤ agreement (old.drop block.oldStart) (new.drop block.newStart)

/-- One of two blocks is the larger. -/
theorem Block.larger_eq (best next : Block) :
    best.larger next = best ∨ best.larger next = next := by
  unfold Block.larger
  split <;> simp

theorem largestAt_isCommon {old new : List α} (oldStart newStart : Nat) (rest : List α)
    (best : Block) (suffix : rest = new.drop newStart) (common : best.IsCommon old new) :
    (largestAt (old.drop oldStart) oldStart newStart rest best).IsCommon old new := by
  induction rest generalizing newStart best with
  | nil => exact common
  | cons line others inductionHypothesis =>
    unfold largestAt
    refine inductionHypothesis _ _ ?_ ?_
    · have tail := congrArg List.tail suffix
      simpa using tail
    · rcases Block.larger_eq best
        ⟨oldStart, newStart, agreement (old.drop oldStart) (line :: others)⟩
        with kept | taken
      · rw [kept]; exact common
      · rw [taken, suffix]; exact Nat.le_refl _

theorem largestFrom_isCommon {old new : List α} (oldStart : Nat) (rest : List α) (best : Block)
    (suffix : rest = old.drop oldStart) (common : best.IsCommon old new) :
    (largestFrom new oldStart rest best).IsCommon old new := by
  induction rest generalizing oldStart best with
  | nil => exact common
  | cons line others inductionHypothesis =>
    unfold largestFrom
    refine inductionHypothesis _ _ ?_ ?_
    · have tail := congrArg List.tail suffix
      simpa using tail
    · rw [suffix]
      exact largestAt_isCommon oldStart 0 new best (by simp) common

/-- The largest block is common. -/
theorem largestBlock_isCommon (old new : List α) : (largestBlock old new).IsCommon old new :=
  largestFrom_isCommon 0 old _ (by simp) (Nat.zero_le _)

/-- A common block lies inside the old text. -/
theorem Block.IsCommon.oldStart_add_le {old new : List α} {block : Block}
    (common : block.IsCommon old new) (positive : 0 < block.size) :
    block.oldStart + block.size ≤ old.length := by
  have bound := Nat.le_trans common (agreement_le_length _ _)
  simp only [List.length_drop] at bound
  omega

/-- What becomes of a run of lines. -/
inductive Segment (α : Type) where
  /-- The lines stand in both texts. -/
  | kept (lines : List α)
  /-- The old lines give way to the new ones. One of the two lists may be empty. -/
  | changed (old new : List α)
  deriving Repr, DecidableEq

/-- The lines of a segment in the old text. -/
def Segment.oldLines : Segment α → List α
  | .kept lines => lines
  | .changed old _ => old

/-- The lines of a segment in the new text. -/
def Segment.newLines : Segment α → List α
  | .kept lines => lines
  | .changed _ new => new

/-- The segment of texts that have no line in common: none if there are no lines. -/
def changeOf : List α → List α → List (Segment α)
  | [], [] => []
  | old, new => [.changed old new]

/-- The segments of two texts in order. -/
def align (old new : List α) : List (Segment α) :=
  let block := largestBlock old new
  if _positive : 0 < block.size then
    align (old.take block.oldStart) (new.take block.newStart)
      ++ .kept ((old.drop block.oldStart).take block.size)
      :: align (old.drop (block.oldStart + block.size)) (new.drop (block.newStart + block.size))
  else changeOf old new
termination_by old.length
decreasing_by
  all_goals
    have inside := (largestBlock_isCommon old new).oldStart_add_le _positive
    simp only [block] at *
    simp only [List.length_take, List.length_drop]
    omega

/-- The segments hold the old lines. -/
theorem oldLines_align (old new : List α) :
    (align old new).flatMap Segment.oldLines = old := by
  fun_induction align old new with
  | case1 old new block positive before after =>
    simp only [List.flatMap_append, List.flatMap_cons, before, after, Segment.oldLines]
    rw [← List.drop_drop, List.take_append_drop, List.take_append_drop]
  | case2 old new block small =>
    cases old <;> cases new <;> simp [changeOf, Segment.oldLines]

/-- The segments hold the new lines. -/
theorem newLines_align (old new : List α) :
    (align old new).flatMap Segment.newLines = new := by
  fun_induction align old new with
  | case1 old new block positive before after =>
    have common : (old.drop block.oldStart).take block.size =
        (new.drop block.newStart).take block.size := by
      have agreed := take_agreement (old.drop block.oldStart) (new.drop block.newStart)
      have enough : block.size ≤ agreement (old.drop block.oldStart) (new.drop block.newStart) :=
        largestBlock_isCommon old new
      have shorter := congrArg (List.take block.size) agreed
      simpa only [List.take_take, Nat.min_eq_left enough] using shorter
    simp only [List.flatMap_append, List.flatMap_cons, before, after, Segment.newLines, common]
    rw [← List.drop_drop, List.take_append_drop, List.take_append_drop]
  | case2 old new block small =>
    cases old <;> cases new <;> simp [changeOf, Segment.newLines]

end LintReview.Source
