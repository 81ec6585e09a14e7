/-!
# The repository

A change is asked of the repository by one command. The repository may not be there, and
the command may fail.
-/

namespace LintReview.Git

/-- Why a repository is not opened. -/
inductive OpenError where
  | missing
  /-- The folder holds no repository. -/
  | invalid
  deriving Repr, DecidableEq

/-- A command that failed. -/
structure CommandError where
  words : List String
  status : Int
  errorOutput : Option String
  deriving Repr, DecidableEq

/-- The words for a failed command. -/
def CommandError.message (failure : CommandError) : String :=
  let program := failure.words.head?.getD ""
  let line := " ".intercalate failure.words
  let cause := if failure.status = 0 then "!" else s!" due to: exit code({failure.status})"
  let shown := match failure.errorOutput with
    | none | some "" => ""
    | some text => s!"\n  stderr: '{text}'"
  s!"Cmd('{program}') failed{cause}\n  cmdline: {line}{shown}"

/-- The arguments that ask for the change from one revision to another. Paths are not
    quoted for being outside of ASCII, and a moved file counts as renamed. -/
def differenceArguments (target source : String) : List String :=
  ["-c", "core.quotePath=false", "diff", "--find-renames", "--no-color", "--no-ext-diff",
    target, source]

end LintReview.Git
