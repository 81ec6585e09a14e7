import LintReview.Run.Basic
import LintReview.Proofs.PullRequest.Upkeep
import LintReview.Proofs.Review.Batches
import LintReview.Proofs.Run.Examination

/-!
# What a run does to post its results

When all files have been examined, it is settled what a run will do: put the summary into its
file, ask for the pull request, keep its comment up to date, post the batches of its review
and put the variables into their file (`Run.postings`). Which of these it does is up to the
context. A run that fails on the way has made a beginning of them.
-/

namespace LintReview.Run

/-- The effects of writing the step summary. -/
def summaryEffects (context : Context) (checkers : List Checker) : List Effect :=
  if context.stepSummary then [.append context.stepSummaryPath (Summary.stepSummary checkers)]
  else []

/-- The effects of asking for the pull request, unless it is at hand or not needed. -/
def openingEffects (context : Context) (pullAtHand : Bool) : List Effect :=
  if !pullAtHand && (context.comment || context.review) then
    [.github (.connect context.token), .github (.repository context.repo),
      .github (.pull context.prNumber)]
  else []

/-- The effects of keeping the comment up to date, where the pull request has the given
    comments. -/
def commentEffects (context : Context) (config : Table) (known : List Github.Comment)
    (checkers : List Checker) : List Effect :=
  if context.comment then
    .github .listComments ::
      BotComment.upkeep ((BotComment.new (loginOf config)).first? known)
        (Summary.issueComment checkers)
  else []

/-- The effects of posting batches of comments. -/
def reviewEffects (batches : List (List Github.InlineComment)) : List Effect :=
  batches.map fun batch => .github (.createReview reviewBody batch)

/-- The effects of writing the variables for later steps. -/
def outputEffects (context : Context) (checkers : List Checker) : List Effect :=
  if !context.isLocal && context.outputPath ≠ "" then
    [.append context.outputPath (Summary.actionOutput checkers)]
  else []

/-- The effects of posting the results of checkers, in order: the summary, the pull request,
    the comment, the batches of the review and the variables. -/
def postings (context : Context) (config : Table) (pullAtHand : Bool)
    (known : List Github.Comment) (checkers : List Checker)
    (batches : List (List Github.InlineComment)) : List Effect :=
  summaryEffects context checkers ++ (openingEffects context pullAtHand ++
    (commentEffects context config known checkers ++
      (reviewEffects batches ++ outputEffects context checkers)))

/-- The batches in which comments are posted: none if there is no way to cut them. -/
def batchesPosted (config : Table) (comments : List Github.InlineComment) :
    List (List Github.InlineComment) :=
  match batchesOf config comments with
  | .ok batches => batches
  | .error _ => []

/-- The comments of the review of a run: none if no review is asked for. -/
def reviewComments (context : Context) (change : Diff.Change) (checkers : List Checker) :
    Except Failure (List Github.InlineComment) :=
  if context.review then Review.comments change checkers else .ok []

/-- The batches in which a run posts its review: none if its comments cannot be made. -/
def batchesFor (context : Context) (config : Table) (change : Diff.Change)
    (checkers : List Checker) : List (List Github.InlineComment) :=
  match reviewComments context change checkers with
  | .ok comments => batchesPosted config comments
  | .error _ => []

/-- Comments are cut into batches of the size that the configuration gives, if there is one
    that is not nought. -/
theorem batchesOf_eq {config : Table} {size : Int} (known : batchSizeOf config = .ok size)
    (comments : List Github.InlineComment) :
    batchesOf config comments =
      if size = 0 then .error .emptyBatches else .ok (Review.batches size.toNat comments) := by
  rw [batchesOf, known]
  change (if size = 0 then Except.error Failure.emptyBatches else _) = _
  split <;> rfl

/-- Without comments there are no batches. -/
theorem batchesPosted_nil (config : Table) : batchesPosted config [] = [] := by
  unfold batchesPosted
  cases known : batchSizeOf config with
  | error cause =>
    rw [batchesOf, known]
    rfl
  | ok size =>
    rw [batchesOf_eq known]
    by_cases nought : size = 0
    · rw [if_pos nought]
    · rw [if_neg nought, Review.batches_nil]

variable {host : Host} {context : Context} {config : Table} {world : World}

theorem writeSummary_follows (checkers : List Checker) :
    Session.Follows host (summaryEffects context checkers) (writeSummary context checkers)
      world := by
  unfold summaryEffects writeSummary
  split
  · exact Session.append_follows host _ _ world
  · exact .pure _

theorem writeOutput_follows (checkers : List Checker) :
    Session.Follows host (outputEffects context checkers) (writeOutput context checkers)
      world := by
  unfold outputEffects writeOutput
  split
  · exact Session.append_follows host _ _ world
  · exact .pure _

/-- The pull request, if it is needed and not at hand. -/
def openFor (host : Host) (context : Context) (pullAtHand : Bool) : Session Unit :=
  if !pullAtHand && (context.comment || context.review) then openPull host context
  else return ()

/-- Asking for the pull request is three calls. -/
theorem openFor_follows (pullAtHand : Bool) :
    Session.Follows host (openingEffects context pullAtHand)
      (openFor host context pullAtHand) world := by
  unfold openingEffects openFor
  split
  · have connected := Session.ask_follows host (.connect context.token) world (by rintro _ ⟨⟩)
    rw [← List.singleton_append]
    apply connected.bind
    intro _ middle _
    have named := Session.ask_follows host (.repository context.repo) middle (by rintro _ ⟨⟩)
    rw [← List.singleton_append]
    apply named.bind
    intro _ last _
    exact Session.ask_follows host _ last (by rintro _ ⟨⟩)
  · exact .pure _

/-- The comment is fetched and then kept up to date. -/
theorem commentFor_follows (checkers : List Checker) :
    Session.Follows host (commentEffects context config world.comments checkers)
      (commentFor host context config checkers) world := by
  unfold commentEffects commentFor
  split
  · have posted : Session.Follows host _ (postComment host config checkers) world :=
      BotComment.keep_follows host (loginOf config) (Summary.issueComment checkers) world
    rw [map_eq_pure_bind]
    exact posted.bind_quiet fun _ _ _ => .pure _
  · exact .pure _

/-- Posting batches is one call for each, in order. -/
theorem postBatches_follows (batches : List (List Github.InlineComment)) :
    Session.Follows host (reviewEffects batches) (postBatches host batches) world := by
  induction batches generalizing world with
  | nil => exact .pure _
  | cons batch rest inductionHypothesis =>
    have posted := Session.ask_follows host (.createReview reviewBody batch) world
      (by rintro _ ⟨⟩)
    rw [reviewEffects, List.map_cons, ← List.singleton_append]
    exact posted.bind fun _ _ _ => inductionHypothesis

theorem postReview_follows (comments : List Github.InlineComment) :
    Session.Follows host (reviewEffects (batchesPosted config comments))
      (postReview host config comments) world := by
  unfold postReview
  by_cases empty : comments = []
  · subst empty
    rw [batchesPosted_nil]
    exact Session.say_follows host _ world
  · rw [if_neg (by simpa using empty)]
    unfold batchesPosted
    cases batchesOf config comments with
    | error cause => exact (Session.Follows.lift (.error cause)).bind_silent (by rintro _ _ ⟨⟩)
    | ok batches =>
      apply (Session.Follows.lift (.ok batches)).bind_silent
      intro found middle same
      obtain ⟨known, rfl⟩ := Prod.mk.inj same
      obtain rfl := Except.ok.inj known
      apply (postBatches_follows batches).bind_quiet
      intro _ last _
      exact Session.say_follows host _ last

/-- The comments of the review are posted in their batches. -/
theorem reviewFor_follows (change : Diff.Change) (checkers : List Checker) :
    Session.Follows host (reviewEffects (batchesFor context config change checkers))
      (reviewFor host context config change checkers) world := by
  unfold batchesFor reviewComments reviewFor
  by_cases asked : context.review = true
  · rw [if_pos asked, if_pos asked]
    cases Review.comments change checkers with
    | error cause => exact (Session.Follows.lift (.error cause)).bind_silent (by rintro _ _ ⟨⟩)
    | ok comments =>
      apply (Session.Follows.lift (.ok comments)).bind_silent
      intro found middle same
      obtain ⟨known, rfl⟩ := Prod.mk.inj same
      obtain rfl := Except.ok.inj known
      exact (postReview_follows comments).bind_quiet fun _ _ _ => .pure _
  · rw [if_neg asked, if_neg asked]
    change Session.Follows host (reviewEffects (batchesPosted config [])) _ _
    rw [batchesPosted_nil]
    exact .pure _

/-- The end of a run, after all files have been examined. -/
def finish (host : Host) (context : Context) (config : Table) (pullAtHand : Bool)
    (change : Diff.Change) (checkers : List Checker) : Session Run := do
  Session.print (Console.Message.results checkers (change.map Prod.fst).length)
  writeSummary context checkers
  openFor host context pullAtHand
  let commentId ← commentFor host context config checkers
  let comments ← reviewFor host context config change checkers
  writeOutput context checkers
  return ⟨change.map Prod.fst, checkers, comments, commentId⟩

/-- A run loads its change, examines the files and goes to its end. -/
theorem start_eq (host : Host) (context : Context) (config : Table) (given : Option Diff.Change)
    (pullAtHand : Bool) :
    start host context config given pullAtHand = (do
      let change ← changeOf host context given
      let enabled ← liftM (checkersOf config context.review)
      let checkers ← examine host context.repoPath (change.map Prod.fst) enabled
      finish host context config pullAtHand change checkers) := by
  unfold start finish openFor
  cases !pullAtHand && (context.comment || context.review) <;> rfl

/-- A run that comes to its end has come to the end of each of its parts. -/
theorem start_eq_ok {given : Option Diff.Change} {pullAtHand : Bool} {run : Run} {final : World}
    (ran : (start host context config given pullAtHand).run.run world = (.ok run, final)) :
    ∃ change loaded enabled checkers examined,
      (changeOf host context given).run.run world = (.ok change, loaded) ∧
      checkersOf config context.review = .ok enabled ∧
      (examine host context.repoPath (change.map Prod.fst) enabled).run.run loaded =
        (.ok checkers, examined) ∧
      (finish host context config pullAtHand change checkers).run.run examined =
        (.ok run, final) := by
  rw [start_eq] at ran
  obtain ⟨change, loaded, loading, afterLoading⟩ := Session.run_bind_inv ran
  obtain ⟨enabled, same, known, afterChecking⟩ := Session.run_bind_inv afterLoading
  obtain ⟨given, rfl⟩ := Prod.mk.inj known
  obtain ⟨checkers, examined, examining, finishing⟩ := Session.run_bind_inv afterChecking
  exact ⟨change, loaded, enabled, checkers, examined, loading, given, examining, finishing⟩

/-- The end of a run posts the results. -/
theorem finish_follows (pullAtHand : Bool) (change : Diff.Change) (checkers : List Checker) :
    Session.Follows host
      (postings context config pullAtHand world.comments checkers
        (batchesFor context config change checkers))
      (finish host context config pullAtHand change checkers) world := by
  apply (Session.print_follows host _ world).bind_silent
  intro _ shown printed
  have known : shown.comments = world.comments :=
    ((Session.print_follows host _ world).traced_ok printed).comments_eq (by simp)
  apply (writeSummary_follows checkers).bind
  intro _ summed written
  have knownThen : summed.comments = shown.comments :=
    ((writeSummary_follows checkers : Session.Follows host _ _ _).traced_ok
      written).comments_eq (by
      intro body
      unfold summaryEffects
      split <;> simp)
  apply (openFor_follows pullAtHand).bind
  intro _ opened asked
  have knownNow : opened.comments = summed.comments :=
    ((openFor_follows pullAtHand).traced_ok asked).comments_eq (by
      intro body
      unfold openingEffects
      split <;> simp)
  rw [← known, ← knownThen, ← knownNow]
  apply (commentFor_follows checkers).bind
  intro commentId commented _
  apply (reviewFor_follows change checkers).bind
  intro comments reviewed _
  apply (writeOutput_follows checkers).bind_quiet
  intro _ last _
  exact .pure _

/-- Comments that have been posted were cut into their batches. -/
theorem postReview_cut {comments : List Github.InlineComment} {final : World}
    (nonempty : comments ≠ [])
    (ran : (postReview host config comments).run.run world = (.ok (), final)) :
    batchesOf config comments = .ok (batchesPosted config comments) := by
  unfold postReview at ran
  rw [if_neg (by simpa using nonempty)] at ran
  obtain ⟨batches, middle, cut, -⟩ := Session.run_bind_inv ran
  have known : batchesOf config comments = .ok batches := (Prod.mk.inj cut).1
  rw [known, batchesPosted, known]

/-- A review that has been posted consists of the comments that were made, in their batches. -/
theorem reviewFor_eq_ok {change : Diff.Change} {checkers : List Checker}
    {comments : List Github.InlineComment} {final : World}
    (ran : (reviewFor host context config change checkers).run.run world =
      (.ok comments, final)) :
    reviewComments context change checkers = .ok comments ∧
      (comments ≠ [] →
        batchesOf config comments = .ok (batchesFor context config change checkers)) := by
  unfold reviewFor at ran
  by_cases asked : context.review = true
  · rw [if_pos asked] at ran
    obtain ⟨found, middle, foundRan, posting⟩ := Session.run_bind_inv ran
    obtain ⟨_, posted, postedRan, returned⟩ := Session.run_bind_inv posting
    obtain rfl : found = comments := Except.ok.inj (Prod.mk.inj returned).1
    have made : reviewComments context change checkers = .ok found := by
      rw [reviewComments, if_pos asked]
      exact (Prod.mk.inj foundRan).1
    refine ⟨made, fun nonempty => ?_⟩
    rw [batchesFor, made]
    exact postReview_cut nonempty postedRan
  · rw [if_neg asked] at ran
    obtain rfl : [] = comments := Except.ok.inj (Prod.mk.inj ran).1
    refine ⟨by rw [reviewComments, if_neg asked], fun nonempty => absurd rfl nonempty⟩

/-- What a run says at its end. -/
theorem finish_eq_ok {pullAtHand : Bool} {change : Diff.Change} {checkers : List Checker}
    {run : Run} {final : World}
    (ran : (finish host context config pullAtHand change checkers).run.run world =
      (.ok run, final)) :
    run.files = change.map Prod.fst ∧ run.checkers = checkers ∧
      reviewComments context change checkers = .ok run.comments ∧
      (run.comments ≠ [] →
        batchesOf config run.comments = .ok (batchesFor context config change checkers)) := by
  obtain ⟨_, shown, -, afterPrint⟩ := Session.run_bind_inv ran
  obtain ⟨_, summed, -, afterSummary⟩ := Session.run_bind_inv afterPrint
  obtain ⟨_, opened, -, afterOpening⟩ := Session.run_bind_inv afterSummary
  obtain ⟨commentId, commented, -, afterComment⟩ := Session.run_bind_inv afterOpening
  obtain ⟨comments, reviewed, reviewRan, afterReview⟩ := Session.run_bind_inv afterComment
  obtain ⟨_, last, -, ended⟩ := Session.run_bind_inv afterReview
  obtain rfl : run = ⟨change.map Prod.fst, checkers, comments, commentId⟩ :=
    (Except.ok.inj (Prod.mk.inj ended).1).symm
  exact ⟨rfl, rfl, reviewFor_eq_ok reviewRan⟩

end LintReview.Run
