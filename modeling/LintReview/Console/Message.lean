import LintReview.Console.Line
import LintReview.Console.Styled
import LintReview.Console.Table
import LintReview.Host.Session
import LintReview.Checker.Basic

/-!
# Messages

What a run prints as it goes along: which checker runs on how many files, a table of what
all of them found, and what became of the review. The name of a program may hold styles and
is printed without them.
-/

namespace LintReview

/-- Prints a text with styles in lines. -/
def Session.say (text : String) : Session Unit :=
  match Console.printed? text.toList with
  | some plain => Session.print (Console.page plain)
  | none => throw .style

namespace Console.Message

/-- A checker begins. -/
def running (checker : Checker) (fileCount : Nat) : String :=
  s!"Running [bold]{checker.programName}[/bold] on {fileCount} file(s)"

/-- No finding has a place in the change. -/
def noComments : String := "[green]No inline comments to post.[/green]"

/-- The review has been posted. -/
def reviewPosted (count : Nat) : String :=
  s!"[green]Review posted with {count} comment(s).[/green]"

/-- The title of the table of results. -/
def tableTitle (fileCount : Nat) : String := s!"lintlens: {fileCount} changed file(s)"

/-- The columns of the table of results. -/
def tableColumns : List Column :=
  [⟨"Tool", false⟩, ⟨"Passed", true⟩, ⟨"Failed", true⟩, ⟨"Ignored", true⟩, ⟨"Fast exit", false⟩]

/-- The row of a checker in the table of results. -/
def tableRow (checker : Checker) : List String :=
  let brief := checker.report.brief
  [ checker.title, toString brief.passedCount, toString brief.failedCount,
    toString brief.ignoredCount, if checker.report.stoppedEarly then "yes" else "" ]

/-- The table of what checkers found. -/
def results (checkers : List Checker) (fileCount : Nat) : String :=
  table (tableTitle fileCount) tableColumns (checkers.map tableRow)

end Console.Message

end LintReview
