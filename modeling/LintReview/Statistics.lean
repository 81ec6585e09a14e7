import LintReview.Text.Lead
import LintReview.Text.Lines
import LintReview.Text.Numeral

/-!
# Run statistics

A linter ends its error output with summary lines that count warnings and errors. A
`Rule` is the form of such a line: fixed text, numbers, and text that may be missing. A
rule that matches a line assigns its numbers to counters. Every rule is tried on every
line, in order, and a later assignment replaces an earlier one.
-/

namespace LintReview

/-- What a summary counts. -/
inductive Counter where
  | warnings
  | errors
  | warningsTreatedAsErrors
  | suppressedWarnings
  | nonUserCodeWarnings
  | noLintWarnings
  deriving Repr, DecidableEq

/-- A value for each counter. -/
structure Statistics where
  warnings : Int := 0
  errors : Int := 0
  warningsTreatedAsErrors : Int := 0
  suppressedWarnings : Int := 0
  nonUserCodeWarnings : Int := 0
  noLintWarnings : Int := 0
  deriving Repr, DecidableEq

namespace Statistics

/-- The value of a counter. -/
def get (statistics : Statistics) : Counter → Int
  | .warnings => statistics.warnings
  | .errors => statistics.errors
  | .warningsTreatedAsErrors => statistics.warningsTreatedAsErrors
  | .suppressedWarnings => statistics.suppressedWarnings
  | .nonUserCodeWarnings => statistics.nonUserCodeWarnings
  | .noLintWarnings => statistics.noLintWarnings

/-- The statistics with one counter assigned. -/
def set (statistics : Statistics) (value : Int) : Counter → Statistics
  | .warnings => { statistics with warnings := value }
  | .errors => { statistics with errors := value }
  | .warningsTreatedAsErrors => { statistics with warningsTreatedAsErrors := value }
  | .suppressedWarnings => { statistics with suppressedWarnings := value }
  | .nonUserCodeWarnings => { statistics with nonUserCodeWarnings := value }
  | .noLintWarnings => { statistics with noLintWarnings := value }

/-- An assignment changes its counter and no other. -/
theorem get_set (statistics : Statistics) (value : Int) (assigned asked : Counter) :
    (statistics.set value assigned).get asked =
      if asked = assigned then value else statistics.get asked := by
  cases assigned <;> cases asked <;> rfl

/-- Two values that agree on every counter are the same. -/
theorem ext_get {left right : Statistics}
    (agree : ∀ counter, left.get counter = right.get counter) :
    left = right := by
  cases left
  cases right
  simp only [mk.injEq]
  exact ⟨agree .warnings, agree .errors, agree .warningsTreatedAsErrors, agree .suppressedWarnings,
    agree .nonUserCodeWarnings, agree .noLintWarnings⟩

/-- Counter by counter sum. -/
def add (left right : Statistics) : Statistics where
  warnings := left.warnings + right.warnings
  errors := left.errors + right.errors
  warningsTreatedAsErrors := left.warningsTreatedAsErrors + right.warningsTreatedAsErrors
  suppressedWarnings := left.suppressedWarnings + right.suppressedWarnings
  nonUserCodeWarnings := left.nonUserCodeWarnings + right.nonUserCodeWarnings
  noLintWarnings := left.noLintWarnings + right.noLintWarnings

/-- The sum adds every counter. -/
theorem get_add (left right : Statistics) (counter : Counter) :
    (left.add right).get counter = left.get counter + right.get counter := by
  cases counter <;> rfl

/-- A part of a summary line's form. -/
inductive Part where
  /-- This text. -/
  | text (content : List Char)
  /-- This text or nothing. -/
  | maybe (content : List Char)
  /-- A number. -/
  | number
  deriving Repr, DecidableEq

/-- The form of a summary line and the counters that its numbers are for. -/
structure Rule where
  /-- The form must stand at the start of the line. -/
  anchored : Bool
  parts : List Part
  counters : List Counter
  deriving Repr, DecidableEq

/-- The numbers of a form at the start of a text, as digits. A number takes all digits
    that follow each other, so the form must not continue with a digit. -/
def matchParts? : List Part → List Char → Option (List (List Char))
  | [], _ => some []
  | .text content :: parts, text => (Text.after? content text).bind (matchParts? parts)
  | .maybe content :: parts, text =>
    ((Text.after? content text).bind (matchParts? parts)) <|> matchParts? parts text
  | .number :: parts, text =>
    let digits := text.takeWhile Text.isDigit
    if digits.isEmpty then none
    else (matchParts? parts (text.dropWhile Text.isDigit)).map (digits :: ·)

/-- The numbers of the leftmost place of a line where the form stands. -/
def searchParts? (parts : List Part) : List Char → Option (List (List Char))
  | [] => matchParts? parts []
  | character :: rest => matchParts? parts (character :: rest) <|> searchParts? parts rest

/-- The numbers that a rule finds in a line. -/
def Rule.find? (rule : Rule) (line : List Char) : Option (List (List Char)) :=
  if rule.anchored then matchParts? rule.parts line else searchParts? rule.parts line

/-- The forms of summary lines, in the order in which they are tried. -/
def rules : List Rule :=
  let text (content : String) : Part := .text content.toList
  let plural : Part := .maybe ['s']
  [ { anchored := true
      parts := [.number, text " warnings and ", .number, text " error", plural, text " generated."]
      counters := [.warnings, .errors] },
    { anchored := true
      parts := [.number, text " warning", plural, text " generated."]
      counters := [.warnings] },
    { anchored := true
      parts := [.number, text " error", plural, text " generated."]
      counters := [.errors] },
    { anchored := false
      parts := [text "Suppressed ", .number, text " warnings (", .number,
        text " in non-user code)."]
      counters := [.suppressedWarnings, .nonUserCodeWarnings] },
    { anchored := false
      parts := [text "Suppressed ", .number, text " warnings (", .number,
        text " in non-user code, ", .number, text " NOLINT)."]
      counters := [.suppressedWarnings, .nonUserCodeWarnings, .noLintWarnings] },
    { anchored := true
      parts := [.number, text " warnings treated as errors"]
      counters := [.warningsTreatedAsErrors] } ]

/-- Assigns numbers to counters, one after the other. -/
def assign (statistics : Statistics) :
    List (Counter × List Char) → Except Text.NumeralError Statistics
  | [] => .ok statistics
  | (counter, digits) :: rest => do
    let value ← Text.readDigits digits
    assign (statistics.set value counter) rest

/-- The assignments that the rules make for one line. -/
def assignments (line : List Char) : List (Counter × List Char) :=
  rules.flatMap fun rule => rule.counters.zip ((rule.find? line).getD [])

/-- The counts in what a linter writes as error output. -/
def ofErrorOutput (output : String) : Except Text.NumeralError Statistics :=
  assign {} ((Text.lines output.toList).flatMap assignments)

end Statistics

end LintReview
