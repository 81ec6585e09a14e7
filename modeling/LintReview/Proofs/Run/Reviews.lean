import LintReview.Proofs.Run.Course

/-!
# The reviews of a run

The reviews that a run posts, one after the other, hold the comments of the run, each once and
in order, as long as the size of a batch is not below nought. With a size below nought a run
posts no review at all, and says nevertheless that it has posted one.
-/

namespace LintReview.Run

/-- The comments of the reviews among effects, review by review. -/
def reviewsOf (effects : List Effect) : List (List Github.InlineComment) :=
  effects.filterMap fun
    | .github (.createReview _ comments) => some comments
    | _ => none

theorem reviewsOf_append (first second : List Effect) :
    reviewsOf (first ++ second) = reviewsOf first ++ reviewsOf second :=
  List.filterMap_append

/-- Posting batches is one review for each. -/
@[simp]
theorem reviewsOf_reviewEffects (batches : List (List Github.InlineComment)) :
    reviewsOf (reviewEffects batches) = batches := by
  induction batches with
  | nil => rfl
  | cons batch rest inductionHypothesis =>
    exact congrArg (batch :: ·) inductionHypothesis

/-- Effects that ask nothing of the server are no reviews. -/
theorem reviewsOf_eq_nil {effects : List Effect}
    (others : ∀ call, Effect.github call ∉ effects) : reviewsOf effects = [] := by
  rw [reviewsOf, List.filterMap_eq_nil_iff]
  intro effect member
  split
  · exact absurd member (others _)
  · rfl

/-- The reviews among the postings are the batches. -/
theorem reviewsOf_postings (context : Context) (config : Table) (pullAtHand : Bool)
    (known : List Github.Comment) (checkers : List Checker)
    (batches : List (List Github.InlineComment)) :
    reviewsOf (postings context config pullAtHand known checkers batches) = batches := by
  have summary : reviewsOf (summaryEffects context checkers) = [] := by
    unfold summaryEffects
    split <;> rfl
  have opening : reviewsOf (openingEffects context pullAtHand) = [] := by
    unfold openingEffects
    split <;> rfl
  have comment : reviewsOf (commentEffects context config known checkers) = [] := by
    unfold commentEffects BotComment.upkeep
    split
    · split <;> rfl
    · rfl
  have output : reviewsOf (outputEffects context checkers) = [] := by
    unfold outputEffects
    split <;> rfl
  simp only [postings, reviewsOf_append, summary, opening, comment, output,
    reviewsOf_reviewEffects, List.nil_append, List.append_nil]

/-- The reviews of a run that has come to its end are its batches. -/
theorem Completed.reviewsOf_eq {host : Host} {context : Context} {config : Table}
    {given : Option Diff.Change} {pullAtHand : Bool} {world : World} {change : Diff.Change}
    {run : Run} {done : List Effect}
    (completed : Completed host context config given pullAtHand world change run done) :
    reviewsOf done = batchesFor context config change run.checkers := by
  have examined : reviewsOf (examining host context given world (change.map Prod.fst)
      run.checkers) = [] :=
    reviewsOf_eq_nil fun call => not_mem_examining host context given world _ _ call
  rw [completed.done_eq, course, reviewsOf_append, examined, reviewsOf_postings, List.nil_append]

/-- The batches of a run that has come to its end, for every size that the configuration may
    give. -/
theorem Completed.batches_eq {host : Host} {context : Context} {config : Table}
    {given : Option Diff.Change} {pullAtHand : Bool} {world : World} {change : Diff.Change}
    {run : Run} {done : List Effect} {size : Int}
    (completed : Completed host context config given pullAtHand world change run done)
    (known : batchSizeOf config = .ok size) :
    batchesFor context config change run.checkers =
      Review.batches size.toNat run.comments := by
  by_cases empty : run.comments = []
  · rw [batchesFor, completed.comments_eq, empty, Review.batches_nil]
    exact batchesPosted_nil config
  · have cut := completed.cut_eq empty
    rw [batchesOf_eq known] at cut
    split at cut
    · cases cut
    · exact (Except.ok.inj cut).symm

/-- The reviews that a run has posted when it comes to its end. If the size of a batch is not
    below nought, they hold the comments of the run, each once and in order, and none of them
    is empty or holds more than the size says. If it is below nought, no review was posted,
    however many comments there are. -/
theorem start_reviews (host : Host) (context : Context) (config : Table)
    (given : Option Diff.Change) (pullAtHand : Bool) (world : World) {size : Int}
    (known : batchSizeOf config = .ok size)
    (distinct : ∀ change, given = some change → (change.map Prod.fst).Nodup)
    {run : Run} {final : World}
    (ran : (start host context config given pullAtHand).run.run world = (.ok run, final)) :
    ∃ done, final.effects = world.effects ++ done ∧
      (0 ≤ size → (reviewsOf done).flatten = run.comments ∧
        ∀ review ∈ reviewsOf done, 0 < review.length ∧ review.length ≤ size) ∧
      (size < 0 → reviewsOf done = []) := by
  obtain ⟨change, done, traced, completed⟩ := start_completed distinct ran
  have batches := completed.batches_eq known
  refine ⟨done, traced.effects_eq, ?_, ?_⟩
  · intro natural
    rw [completed.reviewsOf_eq, batches]
    by_cases nought : size = 0
    · -- a run with batches of no comments ends only if there is nothing to post
      subst nought
      have none : run.comments = [] := by
        by_cases empty : run.comments = []
        · exact empty
        · have cut := completed.cut_eq empty
          rw [batchesOf_eq known] at cut
          cases cut
      rw [none, Review.batches_nil]
      exact ⟨rfl, by simp⟩
    · have positive : 0 < size.toNat := by omega
      have batched := Review.batched_batches positive run.comments
      refine ⟨batched.flatten_eq, ?_⟩
      intro review member
      obtain ⟨nonempty, short⟩ := batched.length_mem review member
      omega
  · intro negative
    have nought : size.toNat = 0 := by omega
    rw [completed.reviewsOf_eq, batches, nought, Review.batches_zero]

/-- A run with two comments posts them in two reviews of one comment each. -/
theorem start_reviews_small :
    ∃ final, batchSizeOf (batchConfig 1) = .ok 1 ∧
      (start willingHost smallContext (batchConfig 1) none false).run.run smallWorld =
        (.ok smallRun, final) ∧
      ∃ done, final.effects = smallWorld.effects ++ done ∧
        (0 ≤ (1 : Int) → (reviewsOf done).flatten = smallRun.comments ∧
          ∀ review ∈ reviewsOf done, 0 < review.length ∧ (review.length : Int) ≤ 1) ∧
        ((1 : Int) < 0 → reviewsOf done = []) := by
  obtain ⟨final, ran⟩ := smallRun_ends (by decide : (1 : Int) ≠ 0)
  have known : batchSizeOf (batchConfig 1) = .ok 1 := rfl
  exact ⟨final, known, ran, start_reviews willingHost smallContext (batchConfig 1) none false
    smallWorld known (by rintro _ ⟨⟩) ran⟩

/-- With batches of size -1 the same run comes to its end, has two comments for its review,
    and posts no review. -/
theorem negative_batches_lose_comments :
    ∃ final done, batchSizeOf (batchConfig (-1)) = .ok (-1) ∧
      smallContext.review = true ∧
      (start willingHost smallContext (batchConfig (-1)) none false).run.run smallWorld =
        (.ok smallRun, final) ∧
      final.effects = smallWorld.effects ++ done ∧
      smallRun.comments.length = 2 ∧ reviewsOf done = [] := by
  obtain ⟨final, ran⟩ := smallRun_ends (by decide : (-1 : Int) ≠ 0)
  have known : batchSizeOf (batchConfig (-1)) = .ok (-1) := rfl
  obtain ⟨change, done, traced, completed⟩ := start_completed (by rintro _ ⟨⟩) ran
  refine ⟨final, done, known, rfl, ran, traced.effects_eq, rfl, ?_⟩
  rw [completed.reviewsOf_eq, completed.batches_eq known]
  exact Review.batches_zero _

end LintReview.Run
