import LintReview.Source.Alignment

/-!
# Similar names

A name that is not known may be a known one with a slip. Two names are similar if, once they
are aligned, at least three fifths of their characters stand in both.
-/

namespace LintReview.CommandLine

/-- How much two names have in common. -/
structure Similarity where
  known : String
  /-- The number of characters that stand in both names. -/
  common : Nat
  /-- The number of characters in both names together. -/
  total : Nat
  deriving Repr, DecidableEq

namespace Similarity

/-- The number of items that stand on both sides of an alignment. -/
def keptCount {α : Type} (segments : List (Source.Segment α)) : Nat :=
  (segments.map fun
    | .kept items => items.length
    | .changed _ _ => 0).foldr (· + ·) 0

/-- How much a known name has in common with another. -/
def of (name known : String) : Similarity where
  known := known
  common := keptCount (Source.align known.toList name.toList)
  total := known.length + name.length

/-- At least three fifths of the characters stand in both names. -/
def isClose (similarity : Similarity) : Bool := 3 * similarity.total ≤ 10 * similarity.common

/-- The first name has at least as much in common with the other as the second has. -/
def isAtLeast (first second : Similarity) : Bool :=
  let left := first.common * second.total
  let right := second.common * first.total
  right < left || (left = right && second.known ≤ first.known)

end Similarity

/-- The number of similar names that are proposed. -/
def maxProposals : Nat := 3

/-- The known names that are most similar to a name, in alphabetical order. -/
def similarNames (known : List String) (name : String) : List String :=
  let close := (known.map (Similarity.of name)).filter Similarity.isClose
  let best := (close.mergeSort Similarity.isAtLeast).take maxProposals
  (best.map Similarity.known).mergeSort fun first second => first ≤ second

end LintReview.CommandLine
