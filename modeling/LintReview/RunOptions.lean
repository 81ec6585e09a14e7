import LintReview.Setting

/-!
# The options of a run

An option of a run is given or not. Switches that are given are on or off; a value of any
other kind counts as on unless it is empty.
-/

namespace LintReview

/-- The options of a run, none for one that is not given. -/
structure RunOptions where
  logLevel : Option String := none
  target : Option String := none
  source : Option String := none
  repoPath : Option String := none
  repo : Option String := none
  token : Option String := none
  eventName : Option String := none
  prNumber : Option Int := none
  stepSummary : Option Bool := none
  comment : Option Bool := none
  review : Option Bool := none
  deriving Repr, DecidableEq

/-- An option that a run may need or refuse. -/
inductive RunOption where
  | target
  | source
  | repoPath
  | repo
  | token
  | eventName
  | prNumber
  | stepSummary
  deriving Repr, DecidableEq

/-- The name of an option. -/
def RunOption.name : RunOption → String
  | .target => "target"
  | .source => "source"
  | .repoPath => "repo_path"
  | .repo => "repo"
  | .token => "token"
  | .eventName => "event_name"
  | .prNumber => "pr_number"
  | .stepSummary => "enable_step_summary"

namespace RunOptions

/-- The option is given. -/
def gives (options : RunOptions) : RunOption → Bool
  | .target => options.target.isSome
  | .source => options.source.isSome
  | .repoPath => options.repoPath.isSome
  | .repo => options.repo.isSome
  | .token => options.token.isSome
  | .eventName => options.eventName.isSome
  | .prNumber => options.prNumber.isSome
  | .stepSummary => options.stepSummary.isSome

/-- The value in a table, none for null. -/
def valueIn? (table : Table) (name : String) : Option Setting :=
  match table.get? name with
  | none | some .null => none
  | some value => some value

/-- The number that a value stands for. -/
def numberOf : Setting → Int
  | .integer value => value
  | .flag value => Setting.flagValue value
  | _ => 0

/-- The options in a table. None if the level of the log is no text. -/
def ofTable? (table : Table) : Option RunOptions :=
  let text (name : String) := (valueIn? table name).map Setting.written
  let textOrEmpty (name : String) :=
    (valueIn? table name).map fun value => if value.isTruthy then value.written else ""
  let switch (name : String) := (valueIn? table name).map Setting.isTruthy
  let rest : RunOptions :=
    { target := text "target"
      source := text "source"
      repoPath := text "repo_path"
      repo := textOrEmpty "repo"
      token := textOrEmpty "token"
      eventName := text "event_name"
      prNumber := (valueIn? table "pr_number").map numberOf
      stepSummary := switch "enable_step_summary"
      comment := switch "enable_comment_on_issue"
      review := switch "enable_pull_request_review" }
  match (valueIn? table "log_level").filter Setting.isTruthy with
  | none => some rest
  | some (.text level) => some { rest with logLevel := some level }
  | some _ => none

end RunOptions

end LintReview
