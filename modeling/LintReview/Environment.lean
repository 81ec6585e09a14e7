/-!
# The environment of a run

A run on the server finds in its environment which repository and revision it is to
examine, and where it is to write. A variable that is not set is empty.
-/

namespace LintReview

/-- What a run finds in its environment. -/
structure Environment where
  /-- The run takes place on the server. -/
  onServer : Bool
  repository : String
  token : String
  eventName : String
  eventPath : String
  baseRef : String
  headRef : String
  ref : String
  sha : String
  workspace : String
  stepSummary : String
  output : String
  deriving Repr, DecidableEq

namespace Environment

/-- The value of a variable, empty if it is not set. -/
def valueOf (bindings : List (String × String)) (name : String) : String :=
  (bindings.lookup name).getD ""

/-- What the variables say. -/
def ofVariables (bindings : List (String × String)) : Environment where
  onServer := valueOf bindings "GITHUB_ACTIONS" = "true"
  repository := valueOf bindings "GITHUB_REPOSITORY"
  token := valueOf bindings "GITHUB_TOKEN"
  eventName := valueOf bindings "GITHUB_EVENT_NAME"
  eventPath := valueOf bindings "GITHUB_EVENT_PATH"
  baseRef := valueOf bindings "GITHUB_BASE_REF"
  headRef := valueOf bindings "GITHUB_HEAD_REF"
  ref := valueOf bindings "GITHUB_REF"
  sha := valueOf bindings "GITHUB_SHA"
  workspace := valueOf bindings "GITHUB_WORKSPACE"
  stepSummary := valueOf bindings "GITHUB_STEP_SUMMARY"
  output := valueOf bindings "GITHUB_OUTPUT"

end Environment

end LintReview
