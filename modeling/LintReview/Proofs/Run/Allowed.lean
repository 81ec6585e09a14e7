import LintReview.Proofs.Run.Course
import LintReview.Token

/-!
# What a run may do

The context of a run says where it may read, launch, write and ask (`Context.Allows`). A run
does nothing that its context does not allow, whatever the surroundings answer and however it
ends (`Run.start_allowed`). So a run that is to post nothing asks nothing of the server, and
no run looks for a token: a checker is launched with options and one file, and these are not
the words with which a token is asked for.
-/

namespace LintReview

/-- The launch is that of a checker in a folder: its last argument is a file, and before it
    stand options only. -/
def Launch.Checks (folder : String) (launch : Launch) : Prop :=
  launch.folder = some folder ∧
    ∃ flags file, launch.arguments = flags ++ [file] ∧
      ∀ flag ∈ flags, flag.toList.head? = some '-'

/-- What a run with the given context may do. -/
inductive Context.Allows (context : Context) : Effect → Prop where
  | opening : Allows context (.openRepository context.repoPath)
  | comparing : Allows context (.difference context.target context.source)
  | checking {launch : Launch} (checks : launch.Checks context.repoPath) :
      Allows context (.launch launch)
  /-- Only a run that is to post asks the server. -/
  | asking (call : Github.Call) (posts : context.comment = true ∨ context.review = true) :
      Allows context (.github call)
  | summing (text : String) (wanted : context.stepSummary = true) :
      Allows context (.append context.stepSummaryPath text)
  | saving (text : String) (served : context.isLocal = false) :
      Allows context (.append context.outputPath text)

/-- A checker is not launched with the words that ask for a token. -/
theorem Launch.Checks.words_ne {folder : String} {launch : Launch}
    (checks : launch.Checks folder) : launch.words ≠ Token.request.words := by
  obtain ⟨-, flags, file, split, hyphened⟩ := checks
  intro same
  have arguments : flags ++ [file] = ["auth"] ++ ["token"] :=
    split.symm.trans (List.cons.inj same).2
  obtain ⟨rfl, -⟩ := List.append_inj' arguments rfl
  have hyphen := hyphened "auth" (List.mem_singleton_self _)
  revert hyphen
  decide

/-! ## Checkers -/

/-- Every argument of the analyzer but the last begins with a hyphen. -/
theorem Analyzer.head?_argument {options : Table} {option : String × String × Form}
    {argument : String} (known : option ∈ passedOn)
    (given : argument? options option = some argument) :
    argument.toList.head? = some '-' := by
  obtain ⟨value, -, rfl⟩ := Option.map_eq_some_iff.mp given
  have flags : ∀ option ∈ passedOn, option.2.1.toList.head? = some '-' := by decide
  have hyphen := flags option known
  obtain ⟨name, flag, form⟩ := option
  cases form with
  | switch => exact hyphen
  | assigned =>
    have joined : (flag ++ "=" ++ value.written).toList =
        flag.toList ++ ("=" ++ value.written).toList := by
      rw [String.append_assoc, String.toList_append]
    dsimp only at hyphen ⊢
    rw [joined, List.head?_append, hyphen]
    rfl

theorem Analyzer.request_checks (options : Table) (folder file : String) :
    (request options folder file).Checks folder := by
  refine ⟨rfl, _, file, rfl, ?_⟩
  intro flag member
  obtain ⟨option, known, given⟩ := List.mem_filterMap.mp member
  exact head?_argument known given

theorem Formatter.request_checks (options : Table) (folder file : String) :
    (request options folder file).Checks folder := by
  refine ⟨rfl, ["--output-replacements-xml"], file, rfl, ?_⟩
  decide

theorem Formatter.textRequest_checks (options : Table) (folder file : String) :
    (textRequest options folder file).Checks folder :=
  ⟨rfl, [], file, rfl, List.forall_mem_nil _⟩

section Checkers

variable {host : Host} {context : Context} {files : List String} {before : List Effect}

/-- A checker launches for a file what the context allows. -/
theorem Checker.launches_allowed {checker : Checker} {file : String} :
    ∀ effect ∈ checker.launches host context.repoPath file before, context.Allows effect := by
  unfold launches
  cases checker.kind with
  | analyzer =>
    rintro effect member
    obtain rfl := List.mem_singleton.mp member
    exact .checking (Analyzer.request_checks _ _ _)
  | formatter wantsText =>
    unfold Formatter.launches Formatter.secondLaunch
    intro effect member
    rcases List.mem_cons.mp member with rfl | second
    · exact .checking (Formatter.request_checks _ _ _)
    · split at second
      · obtain rfl := List.mem_singleton.mp second
        exact .checking (Formatter.textRequest_checks _ _ _)
      · cases second

theorem Checker.launchesFor_allowed {checker : Checker} :
    ∀ effect ∈ checker.launchesFor host context.repoPath files before,
      context.Allows effect := by
  induction files generalizing before with
  | nil => exact List.forall_mem_nil _
  | cons file rest inductionHypothesis =>
    rw [launchesFor, List.forall_mem_append]
    exact ⟨launches_allowed, inductionHypothesis⟩

theorem Run.examinations_allowed {checkers : List Checker} :
    ∀ effect ∈ examinations host context.repoPath files checkers before,
      context.Allows effect := by
  induction checkers generalizing before with
  | nil => exact List.forall_mem_nil _
  | cons checker rest inductionHypothesis =>
    rw [examinations, List.forall_mem_append]
    exact ⟨Checker.launchesFor_allowed, inductionHypothesis⟩

end Checkers

/-! ## Runs -/

namespace Run

section Stages

variable {host : Host} {context : Context} {config : Table} {given : Option Diff.Change}
  {pullAtHand : Bool} {world final : World}

theorem loadingEffects_allowed :
    ∀ effect ∈ loadingEffects context given, context.Allows effect := by
  cases given with
  | some change => exact List.forall_mem_nil _
  | none =>
    intro effect member
    rcases List.mem_cons.mp member with rfl | last
    · exact .opening
    · obtain rfl := List.mem_singleton.mp last
      exact .comparing

theorem examining_allowed {files : List String} {checkers : List Checker} :
    ∀ effect ∈ examining host context given world files checkers, context.Allows effect := by
  rw [examining, List.forall_mem_append]
  exact ⟨loadingEffects_allowed, examinations_allowed⟩

/-- Keeping the comment up to date is a matter of the server alone. -/
theorem upkeep_allowed (posts : context.comment = true ∨ context.review = true)
    {held : Option Int} {body : String} :
    ∀ effect ∈ BotComment.upkeep held body, context.Allows effect := by
  cases held <;> simp [BotComment.upkeep, Context.Allows.asking _ posts]

/-- There is no batch to post unless a review is asked for. -/
theorem review_of_mem_batchesFor {change : Diff.Change} {checkers : List Checker}
    {batch : List Github.InlineComment}
    (member : batch ∈ batchesFor context config change checkers) : context.review = true := by
  by_contra unasked
  rw [batchesFor, reviewComments, if_neg unasked] at member
  dsimp only at member
  rw [batchesPosted_nil] at member
  cases member

theorem postings_allowed {change : Diff.Change} {checkers : List Checker}
    {known : List Github.Comment} :
    ∀ effect ∈ postings context config pullAtHand known checkers
      (batchesFor context config change checkers), context.Allows effect := by
  have summary : ∀ effect ∈ summaryEffects context checkers, context.Allows effect := by
    unfold summaryEffects
    split
    · next wanted => simpa using Context.Allows.summing _ wanted
    · exact List.forall_mem_nil _
  have opening : ∀ effect ∈ openingEffects context pullAtHand, context.Allows effect := by
    unfold openingEffects
    split
    · next asked =>
      obtain ⟨-, posts⟩ := (Bool.and_eq_true _ _).mp asked
      rw [Bool.or_eq_true] at posts
      simp [Context.Allows.asking _ posts]
    · exact List.forall_mem_nil _
  have comment : ∀ effect ∈ commentEffects context config known checkers,
      context.Allows effect := by
    unfold commentEffects
    split
    · next wanted =>
      exact List.forall_mem_cons.mpr ⟨.asking _ (.inl wanted), upkeep_allowed (.inl wanted)⟩
    · exact List.forall_mem_nil _
  have review : ∀ effect ∈ reviewEffects (batchesFor context config change checkers),
      context.Allows effect := by
    intro effect member
    obtain ⟨batch, posted, rfl⟩ := List.mem_map.mp member
    exact .asking _ (.inr (review_of_mem_batchesFor posted))
  have output : ∀ effect ∈ outputEffects context checkers, context.Allows effect := by
    unfold outputEffects
    split
    · next served =>
      obtain ⟨onServer, -⟩ := (Bool.and_eq_true _ _).mp served
      rw [Bool.not_eq_true'] at onServer
      simpa using Context.Allows.saving _ onServer
    · exact List.forall_mem_nil _
  simp only [postings, List.forall_mem_append]
  exact ⟨summary, opening, comment, review, output⟩

/-- A run does nothing that its context does not allow. -/
theorem start_allowed
    (distinct : ∀ change, given = some change → (change.map Prod.fst).Nodup)
    {outcome : Except Failure Run}
    (ran : (start host context config given pullAtHand).run.run world = (outcome, final)) :
    ∃ done, final.effects = world.effects ++ done ∧ ∀ effect ∈ done, context.Allows effect := by
  cases outcome with
  | ok run =>
    obtain ⟨change, done, traced, completed⟩ := start_completed distinct ran
    refine ⟨done, traced.effects_eq, ?_⟩
    rw [completed.done_eq, course, List.forall_mem_append]
    exact ⟨examining_allowed, postings_allowed⟩
  | error cause =>
    obtain ⟨done, traced, broken⟩ := start_broken distinct ran
    refine ⟨done, traced.effects_eq, ?_⟩
    cases broken with
    | loading begun =>
      exact fun effect member => loadingEffects_allowed effect (begun.subset member)
    | examining loads enabled begun =>
      rw [List.forall_mem_append]
      exact ⟨examining_allowed, fun effect member =>
        Checker.launchesFor_allowed effect (begun.subset member)⟩
    | posting loads enabled begun =>
      rw [List.forall_mem_append]
      exact ⟨examining_allowed, fun effect member =>
        postings_allowed effect (begun.subset member)⟩

end Stages

end Run

end LintReview
