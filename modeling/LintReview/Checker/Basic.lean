import LintReview.Checker.Analyzer
import LintReview.Checker.Formatter
import LintReview.Checker.Scan

/-!
# Checkers

A checker is the formatter or the analyzer with its options and the report that it has
made so far. The report is shown in four ways: as numbers, as a block of details, as
comments on lines of the change, and as a variable for later steps.
-/

namespace LintReview

/-- What a checker does. -/
inductive CheckerKind where
  /-- Checks the form of a file, and may ask for the formatted text. -/
  | formatter (wantsText : Bool)
  | analyzer
  deriving Repr, DecidableEq

/-- A checker with its report. -/
structure Checker where
  kind : CheckerKind
  options : Table
  report : Report

namespace Checker

/-- A checker that has examined nothing. -/
def new (kind : CheckerKind) (options : Table) : Checker := ⟨kind, options, .empty⟩

/-- The name of the checker, which is that of its usual program. -/
def title (checker : Checker) : String :=
  match checker.kind with
  | .formatter _ => Formatter.usualProgram
  | .analyzer => Analyzer.usualProgram

/-- The name of the variable that holds the number of failed files. -/
def variableName (checker : Checker) : String :=
  match checker.kind with
  | .formatter _ => "clang_format_failed_number"
  | .analyzer => "clang_tidy_failed_number"

/-- The name of the program that the checker runs. -/
def programName (checker : Checker) : String :=
  Options.programName checker.options checker.title

/-- Checks a file of the repository in a folder. -/
def check (host : Host) (checker : Checker) (folder file : String) : Session FileResult :=
  match checker.kind with
  | .formatter wantsText => Formatter.check host checker.options wantsText folder file
  | .analyzer => Analyzer.check host checker.options folder file

/-- Scans files of the repository in a folder: the checker with its report, and whether
    the scan came to its end. -/
def scan (host : Host) (checker : Checker) (folder : String) (files : List String) :
    StateM World (Checker × Except Failure Unit) := do
  let (report, ending) ← LintReview.scan (Options.selects checker.options)
    (checker.check host folder) (Options.stopsEarly checker.options) files checker.report
  return ({ checker with report := report }, ending)

/-- The block of details on the files that failed. -/
def details (checker : Checker) : String :=
  let count := checker.report.failed.length
  let lines :=
    match checker.kind with
    | .formatter _ => Formatter.detailLines checker.report
    | .analyzer => Analyzer.detailLines checker.report
  "\n".intercalate <|
    [ "<details>",
      s!"<summary>{checker.programName} reports: <strong>{count} fails</strong></summary>\n" ]
      ++ lines ++ ["\n</details>\n"]

/-- The details for a summary: none if no file failed. -/
def summary (checker : Checker) : String :=
  if checker.report.failed.isEmpty then "" else checker.details

/-- The text of a comment on a finding. -/
def commentBody (checker : Checker) (diagnostic : Diagnostic) : String :=
  let plain := String.ofList (Text.trim diagnostic.brief.toList) ++ " " ++ diagnostic.tag
  match checker.kind with
  | .formatter _ => Formatter.commentBody plain diagnostic
  | .analyzer => plain

end Checker

end LintReview
