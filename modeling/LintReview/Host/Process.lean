import LintReview.Text.Lines
import LintReview.Text.Quoted
import LintReview.Text.Utf8

/-!
# Programs that are run

A program is launched with arguments in a folder. It ends with an exit code and the bytes
it wrote, or it cannot be launched at all. A program that is missing or may not be run is
reported like one that failed, with the exit code that a shell gives.
-/

namespace LintReview

/-- The launch of a program. -/
structure Launch where
  program : String
  arguments : List String
  /-- The folder it runs in, none for the working folder. -/
  folder : Option String
  deriving Repr, DecidableEq

/-- The program and its arguments. -/
def Launch.words (launch : Launch) : List String := launch.program :: launch.arguments

/-- Why a program is not run to its end. -/
inductive LaunchFailure where
  | missing
  | notPermitted
  | notExecutable
  | timedOut
  deriving Repr, DecidableEq

/-- The words of a list in brackets, each in quotes. -/
def quotedWords (words : List String) : String :=
  "[" ++ ", ".intercalate (words.map Text.quotedString) ++ "]"

/-- The words for a failed launch. -/
def LaunchFailure.message (launch : Launch) : LaunchFailure → String
  | .missing => "[Errno 2] No such file or directory: " ++ Text.quotedString launch.program
  | .notPermitted => "[Errno 13] Permission denied: " ++ Text.quotedString launch.program
  | .notExecutable => "[Errno 8] Exec format error: " ++ Text.quotedString launch.program
  | .timedOut => s!"Command '{quotedWords launch.words}' timed out after 5 seconds"

/-- What becomes of a launch. -/
inductive Outcome where
  /-- The program ended and wrote bytes. -/
  | finished (exitCode : Int) (output errorOutput : List UInt8)
  | failed (cause : LaunchFailure)
  deriving Repr, DecidableEq

/-- What a run of a program gave. -/
structure CommandResult where
  exitCode : Int
  output : String
  errorOutput : String
  deriving Repr, DecidableEq

namespace CommandResult

/-- The exit code for a program that cannot be launched. -/
def launchFailureCode : Int := 127

/-- The text that a program wrote. Bytes that are no text are replaced, and every line
    ends with a newline. -/
def textOf (bytes : List UInt8) : String :=
  String.ofList (Text.unifyNewlines (Text.decodeReplacing bytes))

/-- The result of a launch. Only a program that is missing or may not be run still has
    one. -/
def ofOutcome (launch : Launch) : Outcome → Except LaunchFailure CommandResult
  | .finished exitCode output errorOutput =>
    .ok ⟨exitCode, textOf output, textOf errorOutput⟩
  | .failed .missing => .ok ⟨launchFailureCode, "", LaunchFailure.missing.message launch⟩
  | .failed .notPermitted =>
    .ok ⟨launchFailureCode, "", LaunchFailure.notPermitted.message launch⟩
  | .failed cause => .error cause

end CommandResult

end LintReview
