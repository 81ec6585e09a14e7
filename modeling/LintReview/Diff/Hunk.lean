/-!
# Hunks

A hunk is one block of a file's diff. Its header gives where the block starts in the old
and in the new file and how many lines it has there; its body has the lines themselves,
each kept, added or removed. `Span` is what the review needs of a hunk: the numbers of
the header and the length of the body.
-/

namespace LintReview.Diff

/-- What a change does with a line. -/
inductive LineKind where
  /-- The line stands in both files. -/
  | context
  /-- The line stands in the new file only. -/
  | added
  /-- The line stands in the old file only. -/
  | removed
  deriving Repr, DecidableEq

/-- The line takes a row of the old file. -/
def LineKind.inOld : LineKind → Bool
  | .added => false
  | _ => true

/-- The line takes a row of the new file. -/
def LineKind.inNew : LineKind → Bool
  | .removed => false
  | _ => true

/-- One line of a hunk's body. -/
structure BodyLine where
  kind : LineKind
  content : List Char
  deriving Repr, DecidableEq

/-- One block of a file's diff. -/
structure Hunk where
  oldStart : Nat
  oldLines : Nat
  newStart : Nat
  newLines : Nat
  /-- The text after the second `@@`. -/
  heading : List Char
  body : List BodyLine
  deriving Repr, DecidableEq

/-- The numbers of a hunk. -/
structure Span where
  header : String
  oldStart : Int
  oldLines : Int
  newStart : Int
  newLines : Int
  /-- How many lines the body has, of all three kinds. -/
  lineCount : Int
  deriving Repr, DecidableEq

/-- The header line, with both lengths written out. -/
def Hunk.header (hunk : Hunk) : String :=
  s!"@@ -{hunk.oldStart},{hunk.oldLines} +{hunk.newStart},{hunk.newLines} @@" ++
    if hunk.heading.isEmpty then "" else " " ++ String.ofList hunk.heading

/-- The numbers of the hunk. -/
def Hunk.span (hunk : Hunk) : Span where
  header := hunk.header
  oldStart := hunk.oldStart
  oldLines := hunk.oldLines
  newStart := hunk.newStart
  newLines := hunk.newLines
  lineCount := hunk.body.length

end LintReview.Diff
