import LintReview.Text.Lines
import LintReview.Text.Numeral
import LintReview.Text.OneOf

/-!
# Diagnostics

A linter writes a diagnostic as a header line and any number of detail lines. The header
has exactly five fields between colons: file, row, column, severity and message. The
message ends with a tag in brackets. A path or message with a colon of its own therefore
makes no header, and its line is a detail line of the diagnostic before.
-/

namespace LintReview

/-- One finding of a linter. -/
structure Diagnostic where
  file : String
  row : Int
  column : Int
  severity : String
  /-- The message in front of the tag, blanks included. -/
  brief : String
  /-- The tag with its brackets. -/
  tag : String
  /-- The detail lines. -/
  details : String
  deriving Repr, DecidableEq

namespace Diagnostic

/-- The severities of a finding. -/
def severities : List (List Char) :=
  ["warning".toList, "info".toList, "error".toList]

/-- A message cut in front of its first opening bracket. It needs at least three
    characters, a closing bracket as its last, and an opening bracket before that. -/
def cutMessage? (message : List Char) : Option (List Char × List Char) :=
  let brief := message.takeWhile (· ≠ '[')
  let tag := message.dropWhile (· ≠ '[')
  if tag.length < 2 || message.length < 3 || tag.getLast? ≠ some ']' then none
  else some (brief, tag)

/-- A field of decimal digits. -/
def isNumberField (field : List Char) : Bool :=
  !field.isEmpty && field.all Text.isAsciiDigit

/-- The diagnostic that a header line announces, without details. A line of another form
    announces none; a row or column that is too long to read is an error. -/
def ofHeader? (line : List Char) : Except Text.NumeralError (Option Diagnostic) :=
  match Text.split ':' line with
  | [file, row, column, severity, message] =>
    if !isNumberField row || !isNumberField column then .ok none
    else if !Text.isOneOf severities (Text.trimStart severity) then .ok none
    else
      match cutMessage? message with
      | none => .ok none
      | some (brief, tag) => do
        let row ← Text.readDigits row
        let column ← Text.readDigits column
        return some
          { file := String.ofList file
            row := row
            column := column
            severity := String.ofList (Text.trimStart severity)
            brief := String.ofList brief
            tag := String.ofList tag
            details := "" }
  | _ => .ok none

/-- A diagnostic with its detail lines. -/
def withDetails (diagnostic : Diagnostic) (lines : List (List Char)) : Diagnostic :=
  { diagnostic with details := String.ofList (Text.join ['\n'] lines) }

/-- Cuts lines into the detail lines up to the next header, and the diagnostics from that
    header on. -/
def group : List (List Char) → Except Text.NumeralError (List (List Char) × List Diagnostic)
  | [] => .ok ([], [])
  | line :: rest => do
    let header ← ofHeader? line
    let (details, diagnostics) ← group rest
    match header with
    | some diagnostic => return ([], diagnostic.withDetails details :: diagnostics)
    | none => return (line :: details, diagnostics)

/-- The diagnostics in what a linter writes, in order. Lines before the first header
    belong to none. -/
def ofOutput (output : String) : Except Text.NumeralError (List Diagnostic) := do
  let (_, diagnostics) ← group (Text.lines output.toList)
  return diagnostics

end Diagnostic

end LintReview
