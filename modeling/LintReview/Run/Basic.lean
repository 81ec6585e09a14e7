import LintReview.Run.Checkers
import LintReview.Run.Posting

/-!
# Runs

A run examines the files of a change with the checkers of its configuration, prints what
they found, and posts it. The first failure ends the run, and nothing that it did before is
undone.
-/

namespace LintReview

/-- A run that has come to its end. -/
structure Run where
  /-- The files of the change. -/
  files : List String
  checkers : List Checker
  /-- The comments of the review. -/
  comments : List Github.InlineComment
  /-- The comment on the pull request. -/
  commentId : Option Int

namespace Run

/-- The run has passed. -/
def passed (run : Run) : Bool := Summary.runPassed run.checkers

/-- The exit code of the run. -/
def exitCode (run : Run) : Int := Summary.exitCode run.checkers

/-- The change that is given, or else the one that the context names. -/
def changeOf (host : Host) (context : Context) : Option Diff.Change → Session Diff.Change
  | some change => return change
  | none => Session.loadChange host context.repoPath context.target context.source

/-- The comment on the pull request, if the context asks for one. -/
def commentFor (host : Host) (context : Context) (config : Table) (checkers : List Checker) :
    Session (Option Int) :=
  if context.comment then some <$> postComment host config checkers else return none

/-- The review of the pull request, if the context asks for one. -/
def reviewFor (host : Host) (context : Context) (config : Table) (change : Diff.Change)
    (checkers : List Checker) : Session (List Github.InlineComment) :=
  if context.review then do
    let comments ← liftM (Review.comments change checkers)
    postReview host config comments
    return comments
  else return []

/-- A run on a change, which is loaded unless it is given. The pull request may be at hand
    already. -/
def start (host : Host) (context : Context) (config : Table) (given : Option Diff.Change)
    (pullAtHand : Bool) : Session Run := do
  let change ← changeOf host context given
  let files := change.map Prod.fst
  let enabled ← liftM (checkersOf config context.review)
  let checkers ← examine host context.repoPath files enabled
  Session.print (Console.Message.results checkers files.length)
  writeSummary context checkers
  if !pullAtHand && (context.comment || context.review) then openPull host context
  let commentId ← commentFor host context config checkers
  let comments ← reviewFor host context config change checkers
  writeOutput context checkers
  return ⟨files, checkers, comments, commentId⟩

end Run

end LintReview
