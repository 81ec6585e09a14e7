import LintReview.Console.Cell
import LintReview.Text.Blank
import LintReview.Text.Lines

/-!
# Lines of limited width

A text is printed in lines of limited width. Each line of the text is filled with its words
in order; a word that does not fit goes to the next line, and one that fits on no line is
cut into pieces. A word holds the blanks after it, which may stand beyond the limit and are
then left out.
-/

namespace LintReview.Console

/-- The number of cells from one tab stop to the next. -/
def tabWidth : Nat := 8

/-- A line with blanks instead of tabs, from a position on. -/
def expandTabs (position : Nat) : List Char → List Char
  | [] => []
  | '\t' :: rest =>
    let next := (position / tabWidth + 1) * tabWidth
    List.replicate (next - position) ' ' ++ expandTabs next rest
  | character :: rest => character :: expandTabs (position + cells character) rest

/-- A line cut into words. A word holds the blanks after it, and the first one also those in
    front. -/
def words : List Char → List (List Char)
  | [] => []
  | character :: rest =>
    match words rest with
    | [] => [[character]]
    | word :: others =>
      let blanks := word.takeWhile Text.isBlank
      if Text.isBlank character || blanks.isEmpty then (character :: word) :: others
      else
        let remaining := word.dropWhile Text.isBlank
        (character :: blanks) :: (if remaining.isEmpty then others else remaining :: others)

/-- A word cut into pieces that fit in a line, after the given piece. -/
def pieces (limit : Nat) (piece : List Char) : List Char → List (List Char)
  | [] => [piece]
  | character :: rest =>
    if width piece + cells character ≤ limit then pieces limit (piece ++ [character]) rest
    else piece :: pieces limit [character] rest

/-- Lines filled with words, the first of them begun. -/
def fill (limit : Nat) (line : List Char) : List (List Char) → List (List Char)
  | [] => [line]
  | word :: rest =>
    let size := width (Text.trimEnd word)
    if width line + size ≤ limit then fill limit (line ++ word) rest
    else if size ≤ limit then line :: fill limit word rest
    else
      let cut := pieces limit [] word
      (if line.isEmpty then [] else [line]) ++ cut.dropLast ++ fill limit (cut.getLastD []) rest

/-- A line without the blanks at its end that stand beyond the limit. -/
def withoutExcess (limit : Nat) (line : List Char) : List Char :=
  let blanks := (line.reverse.takeWhile Text.isBlank).length
  line.take (line.length - min blanks (line.length - limit))

/-- The longest beginning of a line within the limit. -/
def within (limit : Nat) : List Char → List Char
  | [] => []
  | character :: rest =>
    if cells character ≤ limit then character :: within (limit - cells character) rest else []

/-- A line cut at the limit. Half of a wide character becomes a blank. -/
def cutLine (limit : Nat) (line : List Char) : List Char :=
  if width line ≤ limit then line
  else
    let start := within limit line
    start ++ List.replicate (limit - width start) ' '

/-- The lines in which a text is printed. -/
def wrapped (limit : Nat) (text : List Char) : List (List Char) :=
  (Text.split '\n' text).flatMap fun line =>
    (fill limit [] (words (expandTabs 0 line))).map fun full =>
      cutLine limit (withoutExcess limit full)

/-- The number of cells in a printed line. -/
def lineWidth : Nat := 80

/-- A text as it is printed. -/
def page (text : List Char) : String :=
  "".intercalate ((wrapped lineWidth text).map fun line => String.ofList line ++ "\n")

end LintReview.Console
