import LintReview.Diff.Patch
import LintReview.FileTree
import LintReview.Host.Git
import LintReview.Host.Github
import LintReview.Host.Process
import LintReview.Pattern.Token

/-!
# What ends a run

A run ends early when something that it needs fails: a program that cannot be launched, a
repository or a server that refuses, a file that is not there, or a configuration whose
values are of the wrong kind.
-/

namespace LintReview

/-- What ends a run. -/
inductive Failure where
  | launch (cause : LaunchFailure) (request : Launch)
  /-- A program wrote bytes that are no text. -/
  | encoding
  | file (cause : FileError)
  /-- A number in a program's output has too many digits. -/
  | number (cause : Text.NumeralError)
  | repository (cause : Git.OpenError) (path : String)
  | git (cause : Git.CommandError)
  | change (cause : Diff.ChangeError)
  | github (refusal : Github.Refusal)
  /-- The pattern of a checker's files is not written as one. -/
  | pattern (cause : Pattern.Error)
  /-- The pattern of a checker's files is no text. -/
  | patternKind
  /-- The name of a checker's program is no text. -/
  | programKind
  /-- The configuration has no section for a checker. -/
  | noSection
  /-- A checker's section is no table. -/
  | sectionKind
  /-- A file failed that the change does not have. -/
  | missingPatch (path checker : String)
  /-- A review is to be posted in batches of no comments. -/
  | emptyBatches
  /-- The size of a batch is no integer. -/
  | batchKind
  /-- A printed text closes a style that is not open. -/
  | style

/-- The words for a failure. -/
def Failure.message : Failure → String
  | .launch cause request => cause.message request
  | .file cause => cause.message
  | .number cause => cause.message
  | .repository _ path => path
  | .git cause => cause.message
  | .change (.malformed cause) => cause.message
  | .github refusal => refusal.message
  | .pattern .letters => "ASCII and UNICODE flags are incompatible"
  | .pattern .repetitions => "the repetition number is too large"
  | .pattern (.number cause) => cause.message
  | .missingPatch path checker => s!"{path} failed {checker} but is not part of the diff"
  | .emptyBatches => "range() arg 3 must not be zero"
  | .encoding | .change (.path _) | .pattern .malformed | .patternKind | .programKind
  | .noSection | .sectionKind | .batchKind | .style => ""

end LintReview
