import LintReview.Proofs.Checker.FormatterFindings
import LintReview.Proofs.Source.Suggestions
import LintReview.Proofs.Text.DecodedLines

/-!
# Rows of bytes and rows of text

A change is located among the bytes of a file, and a suggestion is made for a row of its decoded
text. The two mean the same rows, whatever the bytes are: the line of text at a row is the decoded
line of bytes there (`cutLines_shownText`). So the text that a finding takes over as its suggestion
is the one for the line in which a change begins (`rows_agree`).
-/

namespace LintReview.Source

/-- The text of a file, with invalid bytes replaced. -/
def shownText (content : List UInt8) : String := String.ofList (Text.decodeReplacing content)

/-- The text of a line. -/
def shownLine (line : List UInt8) : String := String.ofList (Text.decodeReplacing line)

/-- A line of a file with its row and one of its offsets: the lines above, each with its newline,
    end in front of the offset, and the line and its newline reach over it. -/
inductive LineAt (content : List UInt8) : Nat → List UInt8 → Int → Prop where
  | behind {above below : List (List UInt8)} {line : List UInt8} {column : Nat}
      (lines : Text.split newline content = above ++ line :: below)
      (inside : column ≤ line.length) :
      LineAt content (above.length + 1) line ((writtenLines above).length + column)

/-- Segments in which a line, by itself, gives way to a text. The rows of the old lines are counted
    from 1. -/
inductive GivesWay : List (Segment String) → Nat → String → String → Prop where
  | alone {earlier later : List (Segment String)} {line first : String} {others : List String} :
      GivesWay (earlier ++ .changed [line] (first :: others) :: later)
        ((earlier.flatMap Segment.oldLines).length + 1) line (joinLines (first :: others))

/-- The lines of a file are among its parts, which are one more if the file ends in a newline. -/
theorem exists_split_eq (content : List UInt8) :
    ∃ last, Text.split newline content = byteLines content ++ last := by
  rw [byteLines]
  split
  · next ended =>
    exact ⟨[[]], (List.dropLast_append_getLast? [] ended).symm⟩
  · exact ⟨[], (List.append_nil _).symm⟩

/-- A location is in the line of its row, which reaches over its offset. -/
theorem lineAt_of_location? {content : List UInt8} {offset : Int} {location : Location}
    (found : location? (lineLengths content) offset = some location) :
    ∃ line, LineAt content location.row line offset := by
  obtain ⟨inside, rfl⟩ := (location?_eq_some_iff (lineLengths_positive content)).mp found
  obtain ⟨above, line, below, column, lines, rfl, within⟩ := inside.exists_line
  obtain ⟨last, parts⟩ := exists_split_eq content
  rw [lines, List.append_assoc, List.cons_append] at parts
  rw [offset_of_line lines]
  exact ⟨line, .behind parts within⟩

/-- The lines of the text of a file are the texts of its lines. -/
theorem cutLines_shownText (content : List UInt8) :
    cutLines (shownText content) = (Text.split newline content).map shownLine := by
  have cut : Text.split '\n' (Text.decodeReplacing content) =
      (Text.split newline content).map Text.decodeReplacing :=
    Text.split_decodeReplacing (show newline.toNat < 128 by decide) content
  rw [cutLines, shownText, String.toList_ofList, cut, List.map_map]
  rfl

/-- The line of text at the row of a line of bytes is the text of this line. -/
theorem LineAt.shown {content line : List UInt8} {row : Nat} {offset : Int}
    (here : LineAt content row line offset) :
    row ≤ (cutLines (shownText content)).length ∧
      (cutLines (shownText content))[row - 1]? = some (shownLine line) := by
  cases here with
  | @behind above below _ _ lines inside =>
    rw [cutLines_shownText, lines, List.map_append, List.map_cons, Nat.add_sub_cancel]
    constructor
    · simp only [List.length_append, List.length_map, List.length_cons]
      omega
    · rw [List.getElem?_append_right (Nat.le_of_eq (List.length_map _)), List.length_map,
        Nat.sub_self]
      rfl

/-- What is suggested for a row takes the place of a line by itself. -/
theorem givesWay_of_suggested? {original formatted text : String} {row : Nat}
    (suggests : suggested? (suggestions original formatted) row = some text) :
    ∃ line, GivesWay (align (cutLines original) (cutLines formatted)) row line text := by
  obtain ⟨suggestion, known, rfl⟩ := Option.map_eq_some_iff.mp suggests
  have same : suggestion.row = row := by simpa using List.find?_some known
  obtain ⟨earlier, line, first, others, later, parts, rfl⟩ :=
    exists_segment (List.mem_of_find?_eq_some known)
  refine ⟨line, ?_⟩
  rw [parts, ← same, Nat.zero_add]
  exact .alone

/-- A line that gives way stands at its row in the old text. -/
theorem GivesWay.line_eq {old new : List String} {row : Nat} {line text : String}
    (changes : GivesWay (align old new) row line text) : old[row - 1]? = some line := by
  generalize segments : align old new = parts at changes
  cases changes with
  | @alone earlier later _ first others =>
    have lines := oldLines_align old new
    rw [segments, List.flatMap_append, List.flatMap_cons] at lines
    rw [← lines, Nat.add_sub_cancel, List.getElem?_append_right (Nat.le_refl _), Nat.sub_self]
    rfl

end LintReview.Source

namespace LintReview.Formatter

open Source

/-- What is suggested for a row of a file is suggested for that row of its text. -/
theorem suggestedIn_some (content : List UInt8) (formatted : String) (row : Nat) :
    suggestedIn content (some formatted) row =
      (suggested? (suggestions (shownText content) formatted) row).getD "" := rfl

/-- An offset has its location in the row of the line of bytes that it is in, and the line of text
    at this row is the text of that line. A finding is in the row of a line in which a change
    begins; its details are what is suggested for the row, and this takes the place of the text of
    that line and of no other. -/
theorem rows_agree (content : List UInt8) :
    (∀ (offset : Int) (location : Location),
      location? (lineLengths content) offset = some location →
        ∃ line, LineAt content location.row line offset ∧
          location.row ≤ (cutLines (shownText content)).length ∧
          (cutLines (shownText content))[location.row - 1]? = some (shownLine line)) ∧
    ∀ (file formatted : String) (changes : List Replacement),
      ∀ diagnostic ∈ findings file content changes (some formatted),
        ∃ change ∈ changes, ∃ row line, LineAt content row line change.offset ∧
          diagnostic.row = row ∧
          diagnostic.details =
            (suggested? (suggestions (shownText content) formatted) row).getD "" ∧
          ∀ text, suggested? (suggestions (shownText content) formatted) row = some text →
            GivesWay (align (cutLines (shownText content)) (cutLines formatted)) row
              (shownLine line) text := by
  refine ⟨?located, ?found⟩
  case located =>
    intro offset location found
    obtain ⟨line, here⟩ := lineAt_of_location? found
    exact ⟨line, here, here.shown⟩
  case found =>
    intro file formatted changes diagnostic found
    obtain ⟨row, finds⟩ := findsIn_of_mem found
    obtain ⟨parts, -, lies, -⟩ := finds
    rename_i earlier later change start
    obtain ⟨location, located, rfl⟩ := lies.exists_location
    obtain ⟨line, here⟩ := lineAt_of_location? located
    refine ⟨change, parts ▸ List.mem_append_right earlier List.mem_cons_self, location.row, line,
      here, rfl, suggestedIn_some content formatted location.row, ?_⟩
    intro text suggests
    obtain ⟨other, changed⟩ := givesWay_of_suggested? suggests
    obtain rfl : other = shownLine line :=
      Option.some.inj (changed.line_eq.symm.trans here.shown.2)
    exact changed

/-- A file in which both lines end inside of a character. -/
def brokenFile : List UInt8 := [0x61, 0x20, 0xe2, 0x82, 10, 0x62, 0xf0, 0x9f]

/-- The newline behind the first line is in this line, although it stands where the character would
    go on; what is suggested for the row takes the place of the line with its replaced bytes. -/
theorem rows_agree_broken :
    location? (lineLengths brokenFile) 4 = some ⟨1, 5⟩ ∧
    suggestions (shownText brokenFile) "a\ufffd\nb\ufffd" = [⟨1, "a\ufffd"⟩] ∧
    (∃ line, LineAt brokenFile 1 line 4 ∧ 1 ≤ (cutLines (shownText brokenFile)).length ∧
      (cutLines (shownText brokenFile))[0]? = some (shownLine line)) ∧
    ∃ line, LineAt brokenFile 1 line 4 ∧
      GivesWay (align (cutLines (shownText brokenFile)) (cutLines "a\ufffd\nb\ufffd")) 1
        (shownLine line) "a\ufffd" := by
  obtain ⟨located, found⟩ := rows_agree brokenFile
  have place : location? (lineLengths brokenFile) 4 = some ⟨1, 5⟩ := by decide
  have suggested : suggestions (shownText brokenFile) "a\ufffd\nb\ufffd" = [⟨1, "a\ufffd"⟩] := by
    decide +kernel
  have finding : findings "a.cpp" brokenFile [⟨4, 0, ""⟩] (some "a\ufffd\nb\ufffd") =
      [⟨"a.cpp", 1, 5, "warning", brief, tag, "a\ufffd"⟩] := by
    have touched : foundAt brokenFile [⟨4, 0, ""⟩] = [⟨1, 5⟩] := by decide
    rw [findings_eq, touched, List.map_singleton, findingAt, suggestedIn_some, suggested]
    rfl
  refine ⟨place, suggested, located 4 _ place, ?_⟩
  obtain ⟨change, member, row, line, here, same, -, takes⟩ :=
    found "a.cpp" _ _ _ (finding ▸ List.mem_singleton_self _)
  obtain rfl := List.mem_singleton.mp member
  obtain rfl : 1 = row := Int.ofNat.inj same
  exact ⟨line, here, takes _ (by rw [suggested]; rfl)⟩

end LintReview.Formatter
