import LintReview.Environment
import LintReview.LogLevel
import LintReview.PullRequest
import LintReview.RunOptions

/-!
# The context of a run

The options and the environment together say what a run examines and where it posts. On
the server the repository and the revision come from the environment and may not be given
again; elsewhere they must be given. A run that comments needs a pull request.
-/

namespace LintReview

/-- Where an option is needed or refused. -/
inductive Circumstance where
  | anywhere
  | onServer
  | locally
  /-- Locally, with a comment or a review. -/
  | locallyPosting
  deriving Repr, DecidableEq

/-- The words for a circumstance. -/
def Circumstance.words : Circumstance → String
  | .anywhere => "use lintlens on local or CI"
  | .onServer => "use lintlens on CI"
  | .locally => "use lintlens on local"
  | .locallyPosting => "use lintlens on local and interact with GitHub"

/-- Why options and environment make no context. -/
inductive ContextError where
  | logLevel (name : String)
  | missing (circumstance : Circumstance) (option : RunOption)
  | unwanted (circumstance : Circumstance) (option : RunOption)
  /-- The reference of the pull request gives no number. -/
  | reference (cause : PullRequest.RefError)
  | event (name : String)
  /-- A number is given for an event that has no pull request. -/
  | numberForEvent (name : String)
  /-- There is no pull request to comment on. -/
  | noNumber
  /-- There is no file for the step summary. -/
  | noSummaryFile
  deriving Repr, DecidableEq

/-- The words for the error. -/
def ContextError.message : ContextError → String
  | .logLevel name => s!"unsupported log level: {name}"
  | .missing circumstance option => s!"must specify {option.name} when {circumstance.words}"
  | .unwanted circumstance option => s!"must not specify {option.name} when {circumstance.words}"
  | .reference cause => cause.message
  | .event name => s!"unsupported event name: {name}"
  | .numberForEvent name => s!"event: {name} doesn't support pull-request-number option"
  | .noNumber =>
    "commenting on an issue or reviewing a pull request requires a pull request number"
  | .noSummaryFile => "step summary is enabled but GITHUB_STEP_SUMMARY is not set"

/-- What a run examines and where it posts. -/
structure Context where
  /-- The run does not take place on the server. -/
  isLocal : Bool
  target : String
  source : String
  repoPath : String
  eventName : String
  logLevel : LogLevel := .info
  repo : String := ""
  token : String := ""
  prNumber : Option Int := none
  stepSummary : Bool := false
  comment : Bool := false
  review : Bool := false
  stepSummaryPath : String := ""
  outputPath : String := ""
  deriving Repr, DecidableEq

namespace Context

/-- The events of pull requests. -/
def pullEvents : List String := ["pull_request", "pull_request_target"]

/-- The events for which a run can be made. -/
def events : List String := "push" :: pullEvents

/-- Options that must be given. -/
def mustGive (circumstance : Circumstance) (options : RunOptions) :
    List RunOption → Except ContextError Unit
  | [] => .ok ()
  | option :: rest =>
    if options.gives option then mustGive circumstance options rest
    else .error (.missing circumstance option)

/-- Options that must not be given. -/
def mustNotGive (circumstance : Circumstance) (options : RunOptions) :
    List RunOption → Except ContextError Unit
  | [] => .ok ()
  | option :: rest =>
    if options.gives option then .error (.unwanted circumstance option)
    else mustNotGive circumstance options rest

/-- The level of the log. An empty name is none. -/
def logLevelOf (name : Option String) : Except ContextError LogLevel :=
  match name.filter (· ≠ "") with
  | none => .ok .info
  | some text =>
    match LogLevel.ofName? text with
    | some level => .ok level
    | none => .error (.logLevel (LogLevel.plainName text))

/-- A text that is given and not empty, or another. -/
def orElse (given : Option String) (other : String) : String :=
  (given.filter (· ≠ "")).getD other

/-- The number of the pull request for which a run takes place on the server. -/
def numberOnServer (environment : Environment) : Except ContextError (Option Int) :=
  if environment.eventName ∈ pullEvents then
    match PullRequest.numberOfRef (some environment.ref) with
    | .ok number => .ok (some number)
    | .error cause => .error (.reference cause)
  else .ok none

/-- The context on the server. -/
def onServer (options : RunOptions) (environment : Environment) (level : LogLevel) :
    Except ContextError Context := do
  mustNotGive .onServer options [.repoPath, .repo, .source, .eventName, .prNumber]
  let number ← numberOnServer environment
  return {
    isLocal := false
    logLevel := level
    target := options.target.getD ""
    source := environment.sha
    repoPath := environment.workspace
    eventName := environment.eventName
    repo := environment.repository
    token := orElse options.token environment.token
    prNumber := number
    stepSummary := options.stepSummary.getD true
    comment := options.comment.getD false
    review := options.review.getD false
    stepSummaryPath := environment.stepSummary
    outputPath := environment.output }

/-- The options post on the pull request. -/
def posts (options : RunOptions) : Bool :=
  options.comment.getD false || options.review.getD false

/-- The context elsewhere. -/
def locally (options : RunOptions) (level : LogLevel) : Except ContextError Context := do
  mustGive .locally options [.repoPath, .source, .eventName]
  mustNotGive .locally options [.stepSummary]
  let event := options.eventName.getD ""
  if event ∉ events then throw (.event event)
  if posts options then mustGive .locallyPosting options [.token, .repo]
  if options.prNumber.isSome && event ∉ pullEvents then throw (.numberForEvent event)
  return {
    isLocal := true
    logLevel := level
    target := options.target.getD ""
    source := options.source.getD ""
    repoPath := options.repoPath.getD ""
    eventName := event
    repo := orElse options.repo ""
    token := orElse options.token ""
    prNumber := options.prNumber
    comment := options.comment.getD false
    review := options.review.getD false }

/-- The context, if what it asks for can be done. -/
def checked (context : Context) : Except ContextError Context :=
  if (context.comment || context.review) && context.prNumber.isNone then .error .noNumber
  else if context.stepSummary && context.stepSummaryPath = "" then .error .noSummaryFile
  else .ok context

/-- The context that options and environment make. -/
def build (options : RunOptions) (environment : Environment) : Except ContextError Context := do
  let level ← logLevelOf options.logLevel
  mustGive .anywhere options [.target]
  let context ←
    if environment.onServer then onServer options environment level else locally options level
  checked context

end Context

end LintReview
