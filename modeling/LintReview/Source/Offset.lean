import LintReview.Text.Lines

/-!
# Rows and columns of byte offsets

A formatter names a place in a file by its byte offset; a reviewer names it by row and
column, both from 1. The length of every line, its newline included, takes one to the
other. The last line of a file counts a newline whether or not the file ends in one.
-/

namespace LintReview.Source

/-- The newline byte. -/
def newline : UInt8 := 10

/-- The lines of a file. A newline at the end closes the last line and starts no
    further one. -/
def byteLines (content : List UInt8) : List (List UInt8) :=
  let parts := Text.split newline content
  if parts.getLast? = some [] then parts.dropLast else parts

/-- The length of every line, its newline included. -/
def lineLengths (content : List UInt8) : List Int :=
  (byteLines content).map fun line => (line.length : Int) + 1

/-- A row and a column of a file, both from 1. -/
structure Location where
  row : Nat
  column : Int
  deriving Repr, DecidableEq

/-- The location of an offset in lines of which the first starts at offset `start` and
    has row `row`. -/
def locationFrom (start : Int) (row : Nat) (offset : Int) : List Int → Option Location
  | [] => none
  | length :: rest =>
    if start ≤ offset ∧ offset < start + length then some ⟨row, offset - start + 1⟩
    else locationFrom (start + length) (row + 1) offset rest

/-- The location of an offset: none outside the lines. -/
def location? (lengths : List Int) (offset : Int) : Option Location :=
  locationFrom 0 1 offset lengths

end LintReview.Source
