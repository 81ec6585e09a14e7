import LintReview.Console.Message
import LintReview.PullRequest.BotComment
import LintReview.Context
import LintReview.Review
import LintReview.Summary

/-!
# Posting the results

The results of a run are posted where its context says: in the step summary, in the run's
comment on the pull request, in a review of the pull request and as variables for later
steps.
-/

namespace LintReview.Run

/-- Asks the server for the pull request of a context. -/
def openPull (host : Host) (context : Context) : Session Unit := do
  Session.ask host (.connect context.token)
  Session.ask host (.repository context.repo)
  Session.ask host (.pull context.prNumber)

/-- The name under which a run posts. Without one it is empty. -/
def loginOf (config : Table) : Option String :=
  match config.get? "bot_login" with
  | none => some ""
  | some (.text login) => some login
  | some _ => none

/-- Keeps the run's comment on the pull request up to date, and says which it is. -/
def postComment (host : Host) (config : Table) (checkers : List Checker) : Session Int := do
  let (bot, _) ← (BotComment.new (loginOf config)).fetch host
  let (_, id) ← bot.upsert host (Summary.issueComment checkers)
  return id

/-- The number of comments in a batch unless the configuration gives another. -/
def usualBatchSize : Int := 60

/-- The number of comments in a batch. -/
def batchSizeOf (config : Table) : Except Failure Int :=
  match config.get? "batch_limit" with
  | none => .ok usualBatchSize
  | some (.integer size) => .ok size
  | some (.flag value) => .ok (Setting.flagValue value)
  | some _ => .error .batchKind

/-- The text of a review. -/
def reviewBody : String := "lintlens suggestion"

/-- The batches of comments. There are none if their size is below nought. -/
def batchesOf (config : Table) (comments : List Github.InlineComment) :
    Except Failure (List (List Github.InlineComment)) := do
  let size ← batchSizeOf config
  if size = 0 then throw .emptyBatches
  return Review.batches size.toNat comments

/-- Posts batches of comments, one after the other. -/
def postBatches (host : Host) : List (List Github.InlineComment) → Session Unit
  | [] => return ()
  | batch :: rest => do
    Session.ask host (.createReview reviewBody batch)
    postBatches host rest

/-- Posts a review of comments. -/
def postReview (host : Host) (config : Table) (comments : List Github.InlineComment) :
    Session Unit :=
  if comments.isEmpty then Session.say Console.Message.noComments
  else do
    postBatches host (← liftM (batchesOf config comments))
    Session.say (Console.Message.reviewPosted comments.length)

/-- Writes the step summary. -/
def writeSummary (context : Context) (checkers : List Checker) : Session Unit :=
  if context.stepSummary then
    Session.append context.stepSummaryPath (Summary.stepSummary checkers)
  else return ()

/-- Writes the variables for later steps. Away from the server there are none. -/
def writeOutput (context : Context) (checkers : List Checker) : Session Unit :=
  if !context.isLocal && context.outputPath ≠ "" then
    Session.append context.outputPath (Summary.actionOutput checkers)
  else return ()

end LintReview.Run
