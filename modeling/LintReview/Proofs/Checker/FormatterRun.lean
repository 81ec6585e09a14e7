import LintReview.Proofs.Checker.Launches
import LintReview.Proofs.Source.TouchedRows
import LintReview.Proofs.Text.Lines
import LintReview.Proofs.Text.Utf8

/-!
# Files that the formatter changes

The formatter is run twice on a file: for the changes, and for the formatted text. If both runs
end well and the file can be read, the result has the findings that the changes lead to, and the
file passes if there are no changes (`Formats.check_run`).
-/

namespace LintReview

/-- What a program writes is read as text, and each of its line ends as a newline. -/
theorem CommandResult.textOf_encode (text : List Char) :
    textOf (Text.encode text) = String.ofList (Text.unifyNewlines text) := by
  rw [textOf, Text.decodeReplacing_encode]

/-- A text without returns is read as it was written. -/
theorem CommandResult.textOf_plain {text : String} (plain : '\r' ∉ text.toList) :
    textOf (Text.encode text.toList) = text := by
  rw [textOf_encode, Text.unifyNewlines_of_not_mem plain, String.ofList_toList]

namespace Formatter

/-- In a world, both runs of the formatter on a file of a folder end well: the first gives
    changes that can be read, the second a text. The file is there and has some content. -/
structure Formats (host : Host) (options : Table) (folder file : String) (world : World)
    (content : List UInt8) (replacements : List Replacement) (text : String) : Prop where
  named : ∃ program, Options.program options usualProgram = .ok program
  reports : ∃ first, CommandResult.ofOutcome (request options folder file)
      (host.outcome world.effects (request options folder file)) = .ok first ∧
    first.exitCode = 0 ∧ Replacement.ofReport first.output = .ok replacements
  formats : ∃ second, CommandResult.ofOutcome (textRequest options folder file)
      (host.outcome (world.effects ++ [.launch (request options folder file)])
        (textRequest options folder file)) = .ok second ∧
    second.exitCode = 0 ∧ second.output = text
  stored : world.files.read (pathIn folder file) = .ok content

/-- A program that was answered with a result gives this result. -/
theorem execute_answered {host : Host} {program : String} {arguments : List String}
    {folder : String} {world : World} {run : CommandResult}
    (answered : CommandResult.ofOutcome ⟨program, arguments, some folder⟩
      (host.outcome world.effects ⟨program, arguments, some folder⟩) = .ok run) :
    (Session.execute host program arguments folder).run.run world =
      (.ok run, world.record (.launch ⟨program, arguments, some folder⟩)) := by
  rw [Session.execute_run, answered]
  rfl

section Runs

variable {host : Host} {options : Table} {folder file : String} {world : World}
  {content : List UInt8} {replacements : List Replacement} {text : String}

/-- The findings in a file that can be read. Where nothing changes, there are none. -/
theorem locate_run (stored : world.files.read (pathIn folder file) = .ok content)
    (formatted : Option String) :
    (locate folder file replacements formatted).run.run world =
      (.ok (findings file content replacements formatted), world) := by
  have reads : (Session.read (pathIn folder file)).run.run world =
      (.ok (.ok content), world) := by
    rw [← stored]
    rfl
  unfold locate
  split
  · next none =>
    obtain rfl : replacements = [] := List.isEmpty_iff.mp none
    rfl
  · rw [Session.run_bind_ok reads]
    rfl

/-- The result for a file on which both runs end well: it passes if nothing changes, and it has
    the findings that the changes and the text lead to. -/
theorem Formats.check_run
    (both : Formats host options folder file world content replacements text) :
    ∃ result final, (check host options true folder file).run.run world = (.ok result, final) ∧
      result.passed = replacements.isEmpty ∧
      result.diagnostics = findings file content replacements (some text) := by
  obtain ⟨⟨program, named⟩, ⟨first, reported, well, readable⟩, ⟨second, again, wellToo, rfl⟩,
    stored⟩ := both
  obtain rfl := Options.program_eq_ok named
  let middle := world.record (.launch (request options folder file))
  let final := middle.record (.launch (textRequest options folder file))
  have firstRun : (Session.execute host (Options.programName options usualProgram)
      ["--output-replacements-xml", file] folder).run.run world = (.ok first, middle) :=
    execute_answered reported
  have secondRun : (some <$> Session.execute host (Options.programName options usualProgram) [file]
      folder).run.run middle = (.ok (some second), final) := by
    rw [map_eq_pure_bind, Session.run_bind_ok (execute_answered again)]
    rfl
  have still : final.files.read (pathIn folder file) = .ok content := stored
  have located : (locate folder file replacements (some second.output)).run.run final =
      (.ok (findings file content replacements (some second.output)), final) :=
    locate_run still _
  let result := resultOf file first replacements (some second) []
  have formatted : (resultOf file first replacements (some second) []).formatted =
      some second.output := by
    simp [resultOf, Option.filter, wellToo]
  refine ⟨{ result with diagnostics := findings file content replacements (some second.output) },
    final, ?ran, ?passed, rfl⟩
  case ran =>
    rw [check, named, Session.run_bind_ok (Session.lift_run _), Session.run_bind_ok firstRun,
      if_neg (not_not_intro well)]
    dsimp only
    rw [readable]
    dsimp only
    rw [if_pos rfl, Session.run_bind_ok secondRun, formatted, Session.run_bind_ok located]
    rfl
  case passed =>
    simp [result, resultOf, wellToo]

end Runs

end Formatter

end LintReview
