import LintReview.Diagnostic
import LintReview.Entries
import LintReview.Replacement
import LintReview.Statistics

/-!
# The report of a checker

A checker examines files one after the other and reports on each: whether it passed, what
was found in it, and what the checker wrote. The report keeps the files that passed,
those that failed and those that were not examined, each in the order in which they came.
-/

namespace LintReview

/-- What a checker found in a file. -/
structure FileResult where
  file : String
  passed : Bool
  diagnostics : List Diagnostic := []
  /-- What the checker wrote. -/
  output : String := ""
  errorOutput : String := ""
  replacements : List Replacement := []
  /-- The formatted text of the file, if it was asked for. -/
  formatted : Option String := none
  statistics : Option Statistics := none
  deriving Repr, DecidableEq

/-- The results of a checker. -/
structure Report where
  passed : List (String × FileResult)
  failed : List (String × FileResult)
  /-- The files that were not examined. -/
  ignored : List String
  /-- The checker stopped at the first file that failed. -/
  stoppedEarly : Bool
  deriving Repr, DecidableEq

/-- The numbers of a report. -/
structure Brief where
  passed : Bool
  passedCount : Nat
  failedCount : Nat
  ignoredCount : Nat
  deriving Repr, DecidableEq

namespace Report

/-- The report before any file. -/
def empty : Report := ⟨[], [], [], false⟩

/-- The report after a file that is not examined. -/
def ignore (report : Report) (file : String) : Report :=
  { report with ignored := report.ignored ++ [file] }

/-- The report after the result for a file. -/
def add (report : Report) (file : String) (result : FileResult) : Report :=
  if result.passed then { report with passed := putEntry file result report.passed }
  else { report with failed := putEntry file result report.failed }

/-- The numbers of the report. -/
def brief (report : Report) : Brief where
  passed := report.failed.isEmpty
  passedCount := report.passed.length
  failedCount := report.failed.length
  ignoredCount := report.ignored.length

/-- The results for all files that were examined, those that passed first. -/
def results (report : Report) : List FileResult :=
  (report.passed ++ report.failed).map Prod.snd

end Report

end LintReview
