import LintReview.Checker.Basic

/-!
# Summaries of a run

A finished run is summed up three times: in the step summary, in the comment on the pull
request, and in variables for later steps. Only the analyzer decides whether the run as a
whole has passed.
-/

namespace LintReview.Summary

/-- The heading of the step summary. -/
def title : String := "# The lintlens Result\n"

/-- The step summary of a run in which all files passed. -/
def passBanner : String := title ++ ":rocket: All checks on all file passed."

/-- The line in front of the details of a run in which some file failed. -/
def failHint : String := ":warning: Some files didn't pass the lintlens checks\n"

/-- The heading of the comment on the pull request. -/
def commentHeading : String := "# lintlens results:\n"

/-- No file failed. -/
def allPassed (checkers : List Checker) : Bool :=
  checkers.all fun checker => checker.report.brief.passed

/-- No file failed in the analyzer. -/
def runPassed (checkers : List Checker) : Bool :=
  checkers.all fun checker => checker.kind ≠ .analyzer || checker.report.brief.passed

/-- The exit code of a run. -/
def exitCode (checkers : List Checker) : Int := if runPassed checkers then 0 else 1

/-- The step summary. -/
def stepSummary (checkers : List Checker) : String :=
  if allPassed checkers then passBanner
  else title ++ failHint ++ "".intercalate (checkers.map Checker.summary)

/-- The row of a checker in the comment's table. -/
def tableRow (checker : Checker) : String :=
  let brief := checker.report.brief
  s!"| {checker.title} | {brief.passedCount} | {brief.failedCount} | {brief.ignoredCount} |"

/-- The comment on the pull request. -/
def issueComment (checkers : List Checker) : String :=
  "\n".intercalate <|
    [ commentHeading,
      "| tool name | passed | failed | ignored |",
      "|-----------|--------|--------|---------|" ]
      ++ checkers.map tableRow ++ [""] ++ checkers.map Checker.details

/-- The variables that are always written, in order, without any failed file. -/
def noneFailed : List (String × Nat) :=
  [("clang_tidy_failed_number", 0), ("clang_format_failed_number", 0)]

/-- The number of failed files of each checker. -/
def failedCounts (checkers : List Checker) : List (String × Nat) :=
  checkers.foldl (fun counts checker =>
    putEntry checker.variableName checker.report.failed.length counts) noneFailed

/-- The line that gives a variable its value. -/
def assignment (entry : String × Nat) : String := s!"{entry.1}={entry.2}\n"

/-- The variables for later steps. -/
def actionOutput (checkers : List Checker) : String :=
  let counts := failedCounts checkers
  let total := (counts.map Prod.snd).foldr (· + ·) 0
  "".intercalate ((("total_failed", total) :: counts).map assignment)

end LintReview.Summary
