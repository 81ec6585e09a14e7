import LintReview.Text.Lead
import LintReview.Text.Numeral

/-!
# Pull request numbers

The merge reference of a pull request is `refs/pull/`, its number and `/merge`. One
newline may follow.
-/

namespace LintReview.PullRequest

/-- Why a reference gives no number. -/
inductive RefError where
  /-- The reference, none for a missing one, is not a merge reference. -/
  | notAMergeRef (reference : Option String)
  /-- The number is too long. -/
  | number (cause : Text.NumeralError)
  deriving Repr, DecidableEq

/-- The words for the error. -/
def RefError.message : RefError → String
  | .notAMergeRef reference =>
    "source ref format error: " ++ (reference.map Text.quotedString).getD "None"
  | .number cause => cause.message

/-- The digits of the number in a merge reference. -/
def refDigits? (reference : List Char) : Option (List Char) := do
  let (digits, rest) ← Text.digitsThen? (← Text.after? "refs/pull/".toList reference)
  let ending ← Text.after? "/merge".toList rest
  if ending = [] || ending = ['\n'] then some digits else none

/-- The number of the pull request that a merge reference belongs to. -/
def numberOfRef (reference : Option String) : Except RefError Nat :=
  match refDigits? (reference.getD "").toList with
  | some digits => (Text.readDigits digits).mapError .number
  | none => .error (.notAMergeRef reference)

end LintReview.PullRequest
