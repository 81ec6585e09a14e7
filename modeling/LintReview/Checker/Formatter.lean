import LintReview.Checker.Options
import LintReview.Checker.Report
import LintReview.Host.Session
import LintReview.Source.Suggestion
import LintReview.Source.Touched

/-!
# The formatter

The formatter reports how it would change a file. A file without changes passes. Where
the formatted text is asked for too, the formatter runs a second time, and each touched
row is given the text that is to replace it.
-/

namespace LintReview.Formatter

/-- The program that formats. -/
def usualProgram : String := "clang-format"

/-- The message on a touched row. -/
def brief : String := "code should be clang-formatted"

/-- The tag of the message. -/
def tag : String := "[clang-format]"

/-- The finding in a touched row. -/
def finding (file : String) (suggestions : List Source.Suggestion)
    (location : Source.Location) : Diagnostic where
  file := file
  row := location.row
  column := location.column
  severity := "warning"
  brief := brief
  tag := tag
  details := (Source.suggested? suggestions location.row).getD ""

/-- The findings in a file with the given content, by increasing row. -/
def findings (file : String) (content : List UInt8) (replacements : List Replacement)
    (formatted : Option String) : List Diagnostic :=
  let suggestions :=
    match formatted with
    | none => []
    | some text => Source.suggestions (String.ofList (Text.decodeReplacing content)) text
  (Source.touched (Source.lineLengths content) (replacements.map Replacement.offset)).map
    (finding file suggestions)

/-- Finds the touched rows of a file. Without changes the file is not read, and one that
    cannot be read has no findings. -/
def locate (folder file : String) (replacements : List Replacement) (formatted : Option String) :
    Session (List Diagnostic) := do
  if replacements.isEmpty then return []
  match ← Session.read (pathIn folder file) with
  | .ok content => return findings file content replacements formatted
  | .error .nullCharacter => throw (.file .nullCharacter)
  | .error _ => return []

/-- The result for a file whose changes are not known. -/
def unread (file output errorOutput : String) : FileResult where
  file := file
  passed := false
  output := output
  errorOutput := errorOutput

/-- The result for a file with the given changes, of which `second` is what the run for
    the formatted text gave. -/
def resultOf (file : String) (first : CommandResult) (replacements : List Replacement)
    (second : Option CommandResult) (diagnostics : List Diagnostic) : FileResult where
  file := file
  passed := replacements.isEmpty && (second.all fun result => result.exitCode = 0)
  diagnostics := diagnostics
  output := first.output
  errorOutput :=
    match second.filter fun result => result.exitCode ≠ 0 with
    | some failed => failed.errorOutput
    | none => first.errorOutput
  replacements := replacements
  formatted := (second.filter fun result => result.exitCode = 0).map CommandResult.output

/-- Checks a file of the repository in a folder. -/
def check (host : Host) (options : Table) (wantsText : Bool) (folder file : String) :
    Session FileResult := do
  let program ← liftM (Options.program options usualProgram)
  let first ← Session.execute host program ["--output-replacements-xml", file] folder
  if first.exitCode ≠ 0 then return unread file first.output first.errorOutput
  match Replacement.ofReport first.output with
  | .error problem => return unread file first.output problem.message
  | .ok replacements =>
    let second ←
      if wantsText then some <$> Session.execute host program [file] folder else pure none
    let result := resultOf file first replacements second []
    let diagnostics ← locate folder file replacements result.formatted
    return { result with diagnostics := diagnostics }

/-- A number in a list of numbers with commas between them. -/
def listed (rows : List Int) : String := ", ".intercalate (rows.map toString)

/-- The line on a file that failed. -/
def detailLine (file : String) (result : FileResult) : String :=
  if result.diagnostics.isEmpty then s!"- {file}"
  else s!"- {file} (lines {listed (rowsOf result.diagnostics)})"
where
  /-- The rows of findings, each once and by increasing number. -/
  rowsOf (diagnostics : List Diagnostic) : List Int :=
    diagnostics.foldl (fun rows diagnostic => insertRow diagnostic.row rows) []
  /-- Increasing numbers with one more, unless it is there already. -/
  insertRow (row : Int) : List Int → List Int
    | [] => [row]
    | first :: rest =>
      if row < first then row :: first :: rest
      else if row = first then first :: rest
      else first :: insertRow row rest

/-- The lines on the files that failed. -/
def detailLines (report : Report) : List String :=
  report.failed.map fun (file, result) => detailLine file result

/-- The text of a comment on a finding, with the text that is to replace the row. -/
def commentBody (plain : String) (diagnostic : Diagnostic) : String :=
  if diagnostic.details = "" then plain
  else plain ++ "\n\x60\x60\x60suggestion\n" ++ diagnostic.details ++ "\n\x60\x60\x60"

end LintReview.Formatter
