import LintReview.Checker.Options
import LintReview.Checker.Report
import LintReview.Host.Session

/-!
# The analyzer

The analyzer writes its findings, and counts them on its error output. A file passes if
the analyzer ends well and finds nothing.
-/

namespace LintReview.Analyzer

/-- The program that analyzes. -/
def usualProgram : String := "clang-tidy"

/-- How an option is passed on. -/
inductive Form where
  /-- By its name alone. -/
  | switch
  /-- With its value after an equals sign. -/
  | assigned
  deriving Repr, DecidableEq

/-- The options that are passed on, in order, with their names on the command line. -/
def passedOn : List (String × String × Form) :=
  [ ("database", "-p", .assigned),
    ("checks", "-checks", .assigned),
    ("allow_no_checks", "--allow-no-checks", .switch),
    ("config", "--config", .assigned),
    ("config_file", "--config-file", .assigned),
    ("enable_check_profile", "--enable-check-profile", .switch),
    ("header_filter", "--header-filter", .assigned),
    ("line_filter", "--line-filter", .assigned) ]

/-- The argument for an option that is given and not empty. -/
def argument? (options : Table) : String × String × Form → Option String
  | (name, flag, form) =>
    (options.given? name).map fun value =>
      match form with
      | .switch => flag
      | .assigned => flag ++ "=" ++ value.written

/-- The arguments for a file. -/
def arguments (options : Table) (file : String) : List String :=
  passedOn.filterMap (argument? options) ++ [file]

/-- The result for a file, from what the analyzer wrote. -/
def resultOf (file : String) (run : CommandResult) : Except Text.NumeralError FileResult := do
  let diagnostics ← Diagnostic.ofOutput run.output
  let statistics ← Statistics.ofErrorOutput run.errorOutput
  return {
    file := file
    passed := run.exitCode = 0 && diagnostics.isEmpty
    diagnostics := diagnostics
    output := run.output
    errorOutput := run.errorOutput
    statistics := some statistics }

/-- Checks a file of the repository in a folder. -/
def check (host : Host) (options : Table) (folder file : String) : Session FileResult := do
  let program ← liftM (Options.program options usualProgram)
  let run ← Session.execute host program (arguments options file) folder
  liftM ((resultOf file run).mapError Failure.number)

/-- The statistics of all files together. -/
def totalStatistics (report : Report) : Statistics :=
  (report.results.filterMap FileResult.statistics).foldl Statistics.add {}

/-- The line that counts what was found, unless there is nothing to count. -/
def countLines (total : Statistics) : List String :=
  if total = {} then []
  else
    [s!"{total.warnings} warning(s) and {total.errors} error(s) generated, "
      ++ s!"{total.warningsTreatedAsErrors} treated as errors, "
      ++ s!"{total.suppressedWarnings} suppressed "
      ++ s!"({total.nonUserCodeWarnings} in non-user code, {total.noLintWarnings} NOLINT)\n"]

/-- The lines on a finding. -/
def findingLines (diagnostic : Diagnostic) : List String :=
  [ s!"- **{diagnostic.file}:{diagnostic.row}:{diagnostic.column}:** "
      ++ s!"{diagnostic.severity}: {diagnostic.tag}",
    s!"  > {String.ofList (Text.trim diagnostic.brief.toList)}" ]

/-- The lines on a file that failed. -/
def fileLines (file : String) (result : FileResult) : List String :=
  if result.diagnostics.isEmpty then [s!"- **{file}:** failed without diagnostics"]
  else result.diagnostics.flatMap findingLines

/-- The lines on the files that failed. -/
def detailLines (report : Report) : List String :=
  countLines (totalStatistics report)
    ++ report.failed.flatMap fun (file, result) => fileLines file result

end LintReview.Analyzer
