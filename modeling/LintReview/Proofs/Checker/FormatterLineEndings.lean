import LintReview.Proofs.Checker.FormatterFindings
import LintReview.Proofs.Source.LineEndings

/-!
# The line ends of a file that is formatted

A file may have returns at its line ends, and the formatter then writes them too. Its changes are
where they would be without the returns, so the file passes alike and has its findings in the same
rows and columns. But the formatted text is read without its returns and the file with them.
So at most one suggestion is left, for the first row of a file with one newline
(`Formatter.check_returned`).
-/

namespace LintReview

/-- A finding without what is suggested for its row. -/
def Diagnostic.withoutDetails (diagnostic : Diagnostic) : Diagnostic :=
  { diagnostic with details := "" }

namespace Formatter

open Source (carriage cutLines joinLines returnedOffset)

variable {host twin : Host} {options : Table} {folder file : String} {world twinWorld : World}
  {content written : List UInt8} {changes twinChanges : List Replacement}
  {text formatted : List Char}

/-- In a world, the formatter reports changes of a file, and then writes a text for it. -/
structure Writes (host : Host) (options : Table) (folder file : String) (world : World)
    (content : List UInt8) (changes : List Replacement) (written : List UInt8) : Prop where
  named : ∃ program, Options.program options usualProgram = .ok program
  reports : ∃ first, answer host world (request options folder file) = .ok first ∧
    first.exitCode = 0 ∧ Replacement.ofReport first.output = .ok changes
  writes : ∃ problems, host.outcome (afterFirst options folder file world).effects
    (textRequest options folder file) = .finished 0 written problems
  stored : world.files.read (pathIn folder file) = .ok content

/-- Both runs of the formatter end well. -/
theorem Writes.formats (runs : Writes host options folder file world content changes written) :
    Formats host options folder file world content changes (CommandResult.textOf written) where
  named := runs.named
  reports := runs.reports
  formats := by
    obtain ⟨problems, writes⟩ := runs.writes
    exact ⟨⟨0, CommandResult.textOf written, CommandResult.textOf problems⟩,
      congrArg (CommandResult.ofOutcome _) writes, rfl, rfl⟩
  stored := runs.stored

/-- What is suggested for a row of a file in which a text is encoded. -/
theorem suggestedIn_encode (text formatted : List Char) (row : Nat) :
    suggestedIn (Text.encode text) (some (String.ofList formatted)) row =
      (Source.suggested? (Source.suggestions (String.ofList text) (String.ofList formatted))
        row).getD "" := by
  rw [suggestedIn, Text.decodeReplacing_encode]

/-- With returns and one newline, what is suggested for the first row is what stands in front of the
    last line in the formatted text. For the last row nothing is. -/
theorem suggestedIn_pair (plain : '\r' ∉ formatted) {line last : List Char} (one : '\n' ∉ line)
    (two : '\n' ∉ last) (row : Nat) :
    suggestedIn (Text.encode (Text.returned '\n' '\r' (line ++ '\n' :: last)))
        (some (String.ofList formatted)) row =
      if row = 1 ∧ String.ofList last ∈ cutLines (String.ofList formatted) then
        joinLines ((cutLines (String.ofList formatted)).takeWhile (· ≠ String.ofList last))
      else "" := by
  have parts : Text.split '\n' (line ++ '\n' :: last) = [line] ++ [last] := by
    rw [Text.split_append, Text.split_of_not_mem one, Text.split_of_not_mem two]
  have apart := Source.returned_not_mem_cutLines plain line
  rw [suggestedIn_encode]
  exact Source.suggestions_of_pair (Source.cutLines_returned parts) apart row

/-- With returns and several newlines, nothing is suggested. -/
theorem suggestedIn_many (plain : '\r' ∉ formatted) (several : 2 ≤ text.count '\n') (row : Nat) :
    suggestedIn (Text.encode (Text.returned '\n' '\r' text)) (some (String.ofList formatted)) row =
      "" := by
  obtain ⟨front, last, parts⟩ := Text.exists_last_part '\n' text
  have length := Text.length_split '\n' text
  rw [parts, List.length_append, List.length_singleton] at length
  have many : 2 ≤ (front.map fun line => String.ofList (line ++ ['\r'])).length := by
    rw [List.length_map]
    omega
  have apart : ∀ line ∈ front.map fun line => String.ofList (line ++ ['\r']),
      line ∉ cutLines (String.ofList formatted) := by
    intro line member
    obtain ⟨bare, -, rfl⟩ := List.mem_map.mp member
    exact Source.returned_not_mem_cutLines plain bare
  rw [suggestedIn_encode,
    Source.suggestions_of_many (Source.cutLines_returned parts) many apart]
  rfl

/-- The findings in a file, if the formatter writes the formatted text with the line ends of the
    file. -/
theorem Writes.check_run {unified : List Char}
    (runs : Writes host options folder file world content changes (Text.encode formatted))
    (unifies : Text.unifyNewlines formatted = unified) :
    ∃ result final, (check host options true folder file).run.run world = (.ok result, final) ∧
      result.passed = changes.isEmpty ∧
      result.diagnostics = (foundAt content changes).map
        (findingAt file content (some (String.ofList unified))) := by
  obtain ⟨result, final, ran, passed, found⟩ := runs.formats.check_run
  rw [CommandResult.textOf_encode, unifies, findings_eq] at found
  exact ⟨result, final, ran, passed, found⟩

/-- A file without returns and the same file with them, for both of which the formatter has the same
    changes and writes the same text: both pass or neither, and they have their findings in the same
    places. Without newlines there is no difference at all. With one, the suggestion for the first
    row is what stands in the formatted text in front of the last line of the file, if that is
    there, and there is no other. With several newlines no suggestion is left. -/
theorem check_returned (plain : '\r' ∉ formatted)
    (runs : Writes host options folder file world (Text.encode text) changes
      (Text.encode formatted))
    (twinRuns : Writes twin options folder file twinWorld
      (Text.encode (Text.returned '\n' '\r' text)) twinChanges
      (Text.encode (Text.returned '\n' '\r' formatted)))
    (moved : twinChanges.map Replacement.offset =
      changes.map fun change => returnedOffset (Text.encode text) change.offset) :
    ∃ result final twinResult twinFinal,
      (check host options true folder file).run.run world = (.ok result, final) ∧
      (check twin options true folder file).run.run twinWorld = (.ok twinResult, twinFinal) ∧
      twinResult.passed = result.passed ∧
      twinResult.diagnostics.map Diagnostic.withoutDetails =
        result.diagnostics.map Diagnostic.withoutDetails ∧
      ('\n' ∉ text → twinResult.diagnostics = result.diagnostics) ∧
      (∀ line last : List Char, text = line ++ '\n' :: last → '\n' ∉ line → '\n' ∉ last →
        ∀ diagnostic ∈ twinResult.diagnostics, diagnostic.details =
          if diagnostic.row = 1 ∧ String.ofList last ∈ cutLines (String.ofList formatted) then
            joinLines ((cutLines (String.ofList formatted)).takeWhile (· ≠ String.ofList last))
          else "") ∧
      (2 ≤ text.count '\n' →
        twinResult.diagnostics = result.diagnostics.map Diagnostic.withoutDetails) := by
  obtain ⟨result, final, ran, passed, found⟩ :=
    runs.check_run (Text.unifyNewlines_of_not_mem plain)
  obtain ⟨twinResult, twinFinal, twinRan, twinPassed, twinFound⟩ :=
    twinRuns.check_run (Text.unifyNewlines_returned plain)
  have places : foundAt (Text.encode (Text.returned '\n' '\r' text)) twinChanges =
      foundAt (Text.encode text) changes := by
    rw [foundAt, foundAt, moved, Text.encode_returned,
      ← Source.touched_returned (Text.encode text) (changes.map Replacement.offset), List.map_map]
    rfl
  rw [places] at twinFound
  refine ⟨result, final, twinResult, twinFinal, ran, twinRan, ?verdict, ?alike, ?none, ?one,
    ?several⟩
  case verdict =>
    have empty := congrArg List.isEmpty moved
    rw [List.isEmpty_map, List.isEmpty_map] at empty
    rw [passed, twinPassed, empty]
  case alike =>
    rw [found, twinFound, List.map_map, List.map_map]
    rfl
  case none =>
    intro newlines
    rw [found, twinFound, Text.returned_of_not_mem newlines]
  case one =>
    rintro line last rfl first second diagnostic member
    rw [twinFound] at member
    obtain ⟨location, -, rfl⟩ := List.mem_map.mp member
    have suggested := suggestedIn_pair plain first second location.row
    have row : ((location.row : Int) = 1) ↔ location.row = 1 := by omega
    simp only [findingAt, suggested, row]
  case several =>
    intro newlines
    rw [found, twinFound, List.map_map]
    refine List.map_congr_left fun location _ => ?_
    rw [Function.comp_apply, findingAt, suggestedIn_many plain newlines]
    rfl

/-! ## A blank too many in the second of three rows -/

/-- A host on which the formatter reports some changes and writes some bytes. -/
def writingHost (changes : List Replacement) (written : List UInt8) : Host where
  outcome _ launch :=
    if launch.arguments = ["a.cpp"] then .finished 0 written []
    else .finished 0 (Text.encode (Replacement.report [] changes).toList) []
  openError _ _ := none
  difference _ _ _ := .ok ""
  refusal _ _ := none
  login := "bot"

/-- On such a host the formatter reports the changes and then writes the bytes. -/
theorem writes_writingHost (content written : List UInt8)
    (reportable : ∀ change ∈ changes, change.IsReportable)
    (plain : '\r' ∉ (Replacement.report [] changes).toList) :
    Writes (writingHost changes written) [] "." "a.cpp" (worldOf content) content changes
      written where
  named := ⟨_, rfl⟩
  reports := by
    refine ⟨_, rfl, rfl, ?_⟩
    rw [CommandResult.textOf_plain plain]
    exact ofReport_reported reportable
  writes := ⟨_, rfl⟩
  stored := rfl

/-- Three rows, with two blanks in the second. -/
def looseText : List Char := "a;\nb  c;\nd;\n".toList

/-- The rows with one blank. -/
def tightText : List Char := "a;\nb c;\nd;\n".toList

/-- The formatter changes the blanks of the second row. -/
theorem writes_loose :
    Writes (writingHost [⟨4, 2, " "⟩] (Text.encode tightText)) [] "." "a.cpp"
      (worldOf (Text.encode looseText)) (Text.encode looseText) [⟨4, 2, " "⟩]
      (Text.encode tightText) :=
  writes_writingHost _ _ (by decide) (by decide +kernel)

/-- With returns, it changes them one byte later. -/
theorem writes_loose_returned :
    Writes (writingHost [⟨5, 2, " "⟩] (Text.encode (Text.returned '\n' '\r' tightText))) [] "."
      "a.cpp" (worldOf (Text.encode (Text.returned '\n' '\r' looseText)))
      (Text.encode (Text.returned '\n' '\r' looseText)) [⟨5, 2, " "⟩]
      (Text.encode (Text.returned '\n' '\r' tightText)) :=
  writes_writingHost _ _ (by decide) (by decide +kernel)

/-- The second row is found with and without returns. With them, its suggestion is gone. -/
theorem check_returned_loose :
    ∃ result final twinResult twinFinal,
      (check (writingHost [⟨4, 2, " "⟩] (Text.encode tightText)) [] true "." "a.cpp").run.run
        (worldOf (Text.encode looseText)) = (.ok result, final) ∧
      (check (writingHost [⟨5, 2, " "⟩] (Text.encode (Text.returned '\n' '\r' tightText))) [] true
          "." "a.cpp").run.run
        (worldOf (Text.encode (Text.returned '\n' '\r' looseText))) = (.ok twinResult, twinFinal) ∧
      twinResult.passed = result.passed ∧
      twinResult.diagnostics = result.diagnostics.map Diagnostic.withoutDetails := by
  obtain ⟨result, final, twinResult, twinFinal, ran, twinRan, passed, -, -, -, several⟩ :=
    check_returned (by decide) writes_loose writes_loose_returned (by decide)
  exact ⟨result, final, twinResult, twinFinal, ran, twinRan, passed, several (by decide)⟩

/-- The second row has a suggestion without returns, and none with them. -/
theorem returns_lose_suggestion :
    ∃ result final twinResult twinFinal,
      (check (writingHost [⟨4, 2, " "⟩] (Text.encode tightText)) [] true "." "a.cpp").run.run
        (worldOf (Text.encode looseText)) = (.ok result, final) ∧
      (check (writingHost [⟨5, 2, " "⟩] (Text.encode (Text.returned '\n' '\r' tightText))) [] true
          "." "a.cpp").run.run
        (worldOf (Text.encode (Text.returned '\n' '\r' looseText))) = (.ok twinResult, twinFinal) ∧
      result.diagnostics = [⟨"a.cpp", 2, 2, "warning", brief, tag, "b c;"⟩] ∧
      twinResult.diagnostics = [⟨"a.cpp", 2, 2, "warning", brief, tag, ""⟩] := by
  obtain ⟨result, final, ran, -, found⟩ :=
    writes_loose.check_run (Text.unifyNewlines_of_not_mem (by decide))
  obtain ⟨twinResult, twinFinal, twinRan, -, twinFound⟩ :=
    writes_loose_returned.check_run (Text.unifyNewlines_returned (by decide))
  have places : foundAt (Text.encode looseText) [⟨4, 2, " "⟩] = [⟨2, 2⟩] := by decide
  have twinPlaces : foundAt (Text.encode (Text.returned '\n' '\r' looseText)) [⟨5, 2, " "⟩] =
      [⟨2, 2⟩] := by decide
  have suggested : suggestedIn (Text.encode looseText) (some (String.ofList tightText)) 2 =
      "b c;" := by
    rw [suggestedIn_encode]
    cbv
  have lost : suggestedIn (Text.encode (Text.returned '\n' '\r' looseText))
      (some (String.ofList tightText)) 2 = "" := suggestedIn_many (by decide) (by decide) 2
  refine ⟨result, final, twinResult, twinFinal, ran, twinRan, ?_, ?_⟩
  · rw [found, places, List.map_singleton, findingAt, suggested]
    rfl
  · rw [twinFound, twinPlaces, List.map_singleton, findingAt, lost]
    rfl

end Formatter

end LintReview
