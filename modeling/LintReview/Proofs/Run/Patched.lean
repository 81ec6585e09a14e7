import LintReview.Proofs.Review.MissingPatches
import LintReview.Proofs.Run.Course

/-!
# No patch is missing within a run

A run takes the files that its checkers examine from the change on which they comment later. A
scan records only files that it was given (`scan_knows`), however it ends, so the change has each
file that failed, and a run never fails for want of a patch (`start_patched`).

For the other parts of a run it is enough to see that their own failures are of another kind
(`Session.Patched`).
-/

namespace LintReview

/-- Scanning the files of a change from an empty report records files of the change alone. -/
theorem Report.covered_of_scan {ε σ : Type} {selects : String → Except ε Bool}
    {check : String → ExceptT ε (StateM σ) FileResult} {stopsEarly : Bool} {files : List String}
    {last : Report} {ending : Except ε Unit} {state final : σ}
    (ran : (scan selects check stopsEarly files .empty).run state = ((last, ending), final)) :
    ∀ entry ∈ last.failed, entry.1 ∈ files := by
  intro entry failed
  have known : last.Knows entry.1 := .inr (List.mem_map_of_mem failed)
  rcases scan_knows ran known with impossible | inside
  · simp [Report.Knows, Report.empty] at impossible
  · exact inside

/-! ## Failures of another kind -/

/-- The failure is that a file which failed has no patch. -/
def Failure.IsMissingPatch : Failure → Prop
  | .missingPatch _ _ => True
  | _ => False

namespace Session

variable {α β : Type} {act : Session α} {next : α → Session β}

/-- In whatever world, the session does not fail for want of a patch. -/
def Patched (act : Session α) : Prop :=
  ∀ world cause final, act.run.run world = (.error cause, final) → ¬ cause.IsMissingPatch

namespace Patched

/-- A session that always comes to its end. -/
theorem of_ok (ended : ∀ world, ∃ result final, act.run.run world = (.ok result, final)) :
    act.Patched := by
  intro world cause final ran
  obtain ⟨result, last, ranToo⟩ := ended world
  rw [ranToo] at ran
  cases ran

theorem pure (result : α) : (Pure.pure result : Session α).Patched :=
  of_ok fun world => ⟨result, world, rfl⟩

/-- A value that is at hand, or a failure of another kind. -/
theorem lift {value : Except Failure α}
    (other : ∀ cause, value = .error cause → ¬ cause.IsMissingPatch) :
    (liftM value : Session α).Patched := by
  intro world cause final ran
  exact other cause (Prod.mk.inj ran).1

/-- A failure of another kind. -/
theorem throw {cause : Failure} (other : ¬ cause.IsMissingPatch) :
    (throw cause : Session α).Patched := by
  intro world known final ran
  cases ran
  exact other

/-- One part after the other. -/
theorem bind (first : act.Patched)
    (second : ∀ result, (∃ world middle, act.run.run world = (.ok result, middle)) →
      (next result).Patched) :
    (act >>= next).Patched := by
  intro world cause final ran
  rcases ended : act.run.run world with ⟨outcome, middle⟩
  cases outcome with
  | error other =>
    rw [run_bind_error ended] at ran
    cases ran
    exact first world _ _ ended
  | ok result =>
    rw [run_bind_ok ended] at ran
    exact second result ⟨world, middle, ended⟩ middle cause final ran

/-- A part whose result is put into another form. -/
theorem map {form : α → β} (first : act.Patched) : (form <$> act).Patched := by
  rw [map_eq_pure_bind]
  exact first.bind fun _ _ => .pure _

end Patched

theorem execute_patched (host : Host) (program : String) (arguments : List String)
    (folder : String) : (execute host program arguments folder).Patched := by
  intro world cause final ran
  rw [execute_run] at ran
  obtain ⟨failed, -⟩ := Prod.mk.inj ran
  cases ended : CommandResult.ofOutcome ⟨program, arguments, some folder⟩
      (host.outcome world.effects ⟨program, arguments, some folder⟩) with
  | ok result =>
    rw [ended] at failed
    cases failed
  | error problem =>
    rw [ended] at failed
    cases failed
    exact not_false

theorem ask_patched (host : Host) (call : Github.Call) : (ask host call).Patched := by
  intro world cause final ran
  rw [ask_run] at ran
  obtain ⟨failed, -⟩ := Prod.mk.inj ran
  split at failed
  · cases failed
  · cases failed
    exact not_false

theorem append_patched (path text : String) : (append path text).Patched := by
  intro world cause final ran
  rw [append_run] at ran
  split at ran
  · cases ran
  · cases ran
    exact not_false

theorem say_patched (text : String) : (say text).Patched := by
  unfold say
  split
  · exact .of_ok fun world => ⟨(), _, rfl⟩
  · exact .throw not_false

theorem loadChange_patched (host : Host) (path target source : String) :
    (loadChange host path target source).Patched := by
  have performs (effect : Effect) : (perform effect).Patched :=
    .of_ok fun world => ⟨world.effects, world.record effect, rfl⟩
  apply (performs _).bind
  intro before _
  split
  · exact .throw not_false
  · apply (performs _).bind
    intro between _
    split
    · exact .throw not_false
    · split
      · exact .pure _
      · exact .throw not_false

end Session

/-! ## The checkers -/

theorem Options.program_other {options : Table} {usual : String} {cause : Failure}
    (failed : Options.program options usual = .error cause) : ¬ cause.IsMissingPatch := by
  unfold Options.program at failed
  split at failed
  · cases failed
  · cases failed
  · cases failed
    exact not_false

theorem Options.selects_other {options : Table} {file : String} {cause : Failure}
    (failed : Options.selects options file = .error cause) : ¬ cause.IsMissingPatch := by
  have reads {text : String} {problem : Failure}
      (unread : ((.ok text : Except Failure String).bind fun pattern =>
        (Pattern.read pattern.toList).mapError .pattern) = .error problem) :
      ¬ problem.IsMissingPatch := by
    simp only [Except.bind] at unread
    cases read : Pattern.read text.toList with
    | ok pattern =>
      rw [read] at unread
      cases unread
    | error other =>
      rw [read] at unread
      cases unread
      exact not_false
  unfold Options.selects at failed
  cases known : Options.sourcePattern options with
  | ok pattern =>
    rw [known] at failed
    cases failed
  | error other =>
    rw [known] at failed
    cases failed
    unfold Options.sourcePattern at known
    dsimp only at known
    split at known
    · exact reads known
    · exact reads known
    · cases known
      exact not_false

theorem Formatter.check_patched (host : Host) (options : Table) (wantsText : Bool)
    (folder file : String) : (Formatter.check host options wantsText folder file).Patched := by
  have locates (replacements : List Replacement) (formatted : Option String) :
      (Formatter.locate folder file replacements formatted).Patched := by
    unfold Formatter.locate
    split
    · exact .pure _
    · apply Session.Patched.bind (.of_ok fun world => ⟨_, world, rfl⟩)
      intro found _
      split
      · exact .pure _
      · exact .throw not_false
      · exact .pure _
  apply (Session.Patched.lift fun _ => Options.program_other).bind
  intro program _
  apply (Session.execute_patched host program _ folder).bind
  intro first _
  split
  · exact .pure _
  · split
    · exact .pure _
    · next replacements _ =>
      have finishes (result : FileResult) :=
        (locates replacements result.formatted).bind fun diagnostics _ =>
          Session.Patched.pure { result with diagnostics := diagnostics }
      cases wantsText with
      | true =>
        apply (Session.execute_patched host program _ folder).map.bind
        intro second _
        exact finishes _
      | false => exact finishes _

theorem Analyzer.check_patched (host : Host) (options : Table) (folder file : String) :
    (Analyzer.check host options folder file).Patched := by
  apply (Session.Patched.lift fun _ => Options.program_other).bind
  intro program _
  apply (Session.execute_patched host program _ folder).bind
  intro run _
  apply Session.Patched.lift
  intro cause failed
  cases read : Analyzer.resultOf file run with
  | ok result =>
    rw [read] at failed
    cases failed
  | error problem =>
    rw [read] at failed
    cases failed
    exact not_false

theorem Checker.check_patched (host : Host) (checker : Checker) (folder file : String) :
    (checker.check host folder file).Patched := by
  unfold Checker.check
  split
  · exact Formatter.check_patched host _ _ folder file
  · exact Analyzer.check_patched host _ folder file

namespace Run

variable {host : Host} {context : Context} {config : Table} {folder : String}
  {files : List String}

theorem checkersOf_other {review : Bool} {cause : Failure}
    (failed : checkersOf config review = .error cause) : ¬ cause.IsMissingPatch := by
  have sections {name : String} {problem : Failure}
      (absent : sectionOf config name = .error problem) : ¬ problem.IsMissingPatch := by
    unfold sectionOf at absent
    split at absent
    · cases absent
      exact not_false
    · cases absent
    · cases absent
      exact not_false
  have single {name : String} {kind : CheckerKind} {problem : Failure}
      (absent : checkerOf config name kind = .error problem) : ¬ problem.IsMissingPatch := by
    unfold checkerOf at absent
    cases found : sectionOf config name with
    | error other =>
      rw [found] at absent
      cases absent
      exact sections found
    | ok options =>
      rw [found] at absent
      cases absent
  unfold checkersOf at failed
  cases first : checkerOf config Config.formatterSection (.formatter review) with
  | error other =>
    rw [first] at failed
    cases failed
    exact single first
  | ok formatters =>
    cases second : checkerOf config Config.analyzerSection .analyzer with
    | error other =>
      rw [first, second] at failed
      cases failed
      exact single second
    | ok analyzers =>
      rw [first, second] at failed
      cases failed

theorem examineWith_patched (checker : Checker) :
    (examineWith host folder files checker).Patched := by
  apply (Session.say_patched _).bind
  intro _ _
  have scans : (liftM (checker.scan host folder files) :
      Session (Checker × Except Failure Unit)).Patched :=
    .of_ok fun world => ⟨_, _, Session.liftState_run rfl⟩
  apply scans.bind
  rintro ⟨examined, ending⟩ ⟨world, middle, ran⟩
  cases ending with
  | ok => exact .pure _
  | error cause =>
    refine Session.Patched.throw ?_
    rcases scanned : (LintReview.scan (Options.selects checker.options)
      (checker.check host folder) (Options.stopsEarly checker.options) files
      checker.report).run world with ⟨⟨report, ending⟩, last⟩
    have lifted := Session.liftState_run (Checker.scan_run scanned)
    obtain ⟨same, -⟩ := Prod.mk.inj (lifted.symm.trans ran)
    obtain ⟨-, rfl⟩ := Prod.mk.inj (Except.ok.inj same)
    obtain ⟨before, file, later, applied, between, -, -, -, failure⟩ := scan_interrupted scanned
    rcases failure with ⟨unreadable, -⟩ | ⟨-, raised⟩
    · exact Options.selects_other unreadable
    · exact Checker.check_patched host checker folder file between cause last raised

theorem examine_patched (checkers : List Checker) :
    (examine host folder files checkers).Patched := by
  induction checkers with
  | nil => exact .pure _
  | cons checker rest inductionHypothesis =>
    apply (examineWith_patched checker).bind
    intro examined _
    exact inductionHypothesis.bind fun _ _ => .pure _

/-- A checker of a run examines the files of the change and leaves a report on such files. -/
theorem scan_covered {checker examined : Checker} {change : Diff.Change}
    {ending : Except Failure Unit} {world final : World} (fresh : checker.report = .empty)
    (ran : (checker.scan host folder (change.map Prod.fst)).run world =
      ((examined, ending), final)) : examined.Covered change := by
  rcases scanned : (LintReview.scan (Options.selects checker.options) (checker.check host folder)
    (Options.stopsEarly checker.options) (change.map Prod.fst) checker.report).run world with
    ⟨⟨report, ended⟩, last⟩
  obtain ⟨same, -⟩ := Prod.mk.inj ((Checker.scan_run scanned).symm.trans ran)
  obtain ⟨rfl, rfl⟩ := Prod.mk.inj same
  rw [fresh] at scanned
  exact Report.covered_of_scan scanned

/-- Checkers that have examined the files of the change have failed only files of the change. -/
theorem examine_covered {enabled checkers : List Checker} {change : Diff.Change}
    {world final : World} (fresh : ∀ checker ∈ enabled, checker.report = .empty)
    (ran : (examine host folder (change.map Prod.fst) enabled).run.run world =
      (.ok checkers, final)) : ∀ checker ∈ checkers, checker.Covered change := by
  intro checker member
  obtain ⟨before, after, scanned⟩ := (examine_scanned fresh ran).2 checker member
  exact Report.covered_of_scan scanned

/-! ## The whole run -/

theorem openFor_patched (pullAtHand : Bool) : (openFor host context pullAtHand).Patched := by
  unfold openFor openPull
  split
  · apply (Session.ask_patched host _).bind
    intro _ _
    apply (Session.ask_patched host _).bind
    intro _ _
    exact Session.ask_patched host _
  · exact .pure _

theorem commentFor_patched (checkers : List Checker) :
    (commentFor host context config checkers).Patched := by
  have fetches (bot : BotComment) : (bot.fetch host).Patched := by
    apply (Session.ask_patched host _).bind
    intro _ _
    apply Session.Patched.bind (.of_ok fun world => ⟨world, world, rfl⟩)
    intro world _
    split
    · exact .pure _
    · exact .pure _
  have creates (body : String) : (BotComment.create host body).Patched := by
    apply (Session.ask_patched host _).bind
    intro _ _
    exact .of_ok fun world => ⟨_, _, rfl⟩
  have keeps (bot : BotComment) (body : String) : (bot.upsert host body).Patched := by
    unfold BotComment.upsert
    split
    · exact (creates body).bind fun _ _ => .pure _
    · apply (Session.ask_patched host _).bind
      intro _ _
      exact (Session.ask_patched host _).bind fun _ _ => .pure _
  unfold commentFor
  split
  · exact ((fetches _).bind fun _ _ => (keeps _ _).bind fun _ _ => .pure _).map
  · exact .pure _

theorem batchesOf_other {comments : List Github.InlineComment} {cause : Failure}
    (failed : batchesOf config comments = .error cause) : ¬ cause.IsMissingPatch := by
  cases known : batchSizeOf config with
  | error other =>
    rw [batchesOf, known] at failed
    cases failed
    unfold batchSizeOf at known
    split at known
    · cases known
    · cases known
    · cases known
    · cases known
      exact not_false
  | ok size =>
    rw [batchesOf_eq known] at failed
    split at failed
    · cases failed
      exact not_false
    · cases failed

theorem postReview_patched (comments : List Github.InlineComment) :
    (postReview host config comments).Patched := by
  have posts (batches : List (List Github.InlineComment)) :
      (postBatches host batches).Patched := by
    induction batches with
    | nil => exact .pure _
    | cons batch rest inductionHypothesis =>
      exact (Session.ask_patched host _).bind fun _ _ => inductionHypothesis
  unfold postReview
  split
  · exact Session.say_patched _
  · apply (Session.Patched.lift fun _ => batchesOf_other).bind
    intro batches _
    exact (posts batches).bind fun _ _ => Session.say_patched _

/-- The comments of a review can be made, so the review does not fail for want of a patch. -/
theorem reviewFor_patched {change : Diff.Change} {checkers : List Checker}
    (covered : ∀ checker ∈ checkers, checker.Covered change) :
    (reviewFor host context config change checkers).Patched := by
  obtain ⟨comments, made, -⟩ := Review.comments_of_covered covered
  unfold reviewFor
  split
  · rw [made]
    apply (Session.Patched.lift (by rintro _ ⟨⟩)).bind
    intro found _
    exact (postReview_patched found).bind fun _ _ => .pure _
  · exact .pure _

theorem finish_patched {change : Diff.Change} {checkers : List Checker} (pullAtHand : Bool)
    (covered : ∀ checker ∈ checkers, checker.Covered change) :
    (finish host context config pullAtHand change checkers).Patched := by
  have summarizes : (writeSummary context checkers).Patched := by
    unfold writeSummary
    split
    · exact Session.append_patched _ _
    · exact .pure _
  have outputs : (writeOutput context checkers).Patched := by
    unfold writeOutput
    split
    · exact Session.append_patched _ _
    · exact .pure _
  apply Session.Patched.bind (.of_ok fun world => ⟨(), _, rfl⟩)
  intro _ _
  apply summarizes.bind
  intro _ _
  apply (openFor_patched pullAtHand).bind
  intro _ _
  apply (commentFor_patched checkers).bind
  intro commentId _
  apply (reviewFor_patched covered).bind
  intro comments _
  exact outputs.bind fun _ _ => .pure _

/-- A run does not fail for want of a patch. -/
theorem start_fails_otherwise (host : Host) (context : Context) (config : Table)
    (given : Option Diff.Change) (pullAtHand : Bool) :
    (start host context config given pullAtHand).Patched := by
  have loads : (changeOf host context given).Patched := by
    cases given with
    | some change => exact .pure _
    | none => exact Session.loadChange_patched host _ _ _
  rw [start_eq]
  apply loads.bind
  intro change _
  apply (Session.Patched.lift fun _ => checkersOf_other).bind
  rintro enabled ⟨world, middle, known⟩
  apply (examine_patched enabled).bind
  rintro checkers ⟨before, after, examined⟩
  have fresh := checkersOf_fresh (Prod.mk.inj known).1
  exact finish_patched pullAtHand (examine_covered fresh examined)

/-- No patch is missing within a run, whether its change is given or loaded. A run never fails
    for want of a patch. If it comes to its end, the change has every file that failed in one of
    its checkers, the checkers can make their comments, and each comment of the run stands on
    one of its files. However the scan of a checker ends, all files that have failed until then
    are in the change.

    A checker by itself may be asked for its comments on any change. This is a failure exactly
    if the change does not have all files that failed, and the failure names the first of those
    that it does not have. -/
theorem start_patched (host : Host) (context : Context) (config : Table)
    (given : Option Diff.Change) (pullAtHand : Bool) (world : World)
    {outcome : Except Failure Run} {final : World}
    (ran : (start host context config given pullAtHand).run.run world = (outcome, final)) :
    (∀ path title, outcome ≠ .error (.missingPatch path title)) ∧
    (∀ run, outcome = .ok run → ∃ change, Loads host context given world change ∧
      run.files = change.map Prod.fst ∧
      (∀ checker ∈ run.checkers, checker.Covered change) ∧
      (∃ comments, Review.comments change run.checkers = .ok comments) ∧
      ∀ comment ∈ run.comments, comment.path ∈ run.files) ∧
    (∀ change enabled, Loads host context given world change →
      checkersOf config context.review = .ok enabled →
      ∀ checker ∈ enabled, ∀ before examined ending after,
        (checker.scan host context.repoPath (change.map Prod.fst)).run before =
          ((examined, ending), after) → examined.Covered change) ∧
    ∀ (change : Diff.Change) (checker : Checker),
      ((∃ cause, Review.commentsOf change checker = .error cause) ↔
        ∃ file ∈ checker.report.failed.map Prod.fst, file ∉ change.map Prod.fst) ∧
      ∀ cause, Review.commentsOf change checker = .error cause ↔
        ∃ file, Review.FirstMissing change (checker.report.failed.map Prod.fst) file ∧
          cause = .missingPatch file checker.title := by
  refine ⟨?_, ?_, ?_, ?_⟩
  · rintro path title rfl
    exact start_fails_otherwise host context config given pullAtHand world _ final ran trivial
  · rintro run rfl
    obtain ⟨change, loaded, enabled, checkers, examined, loading, known, examining, finishing⟩ :=
      start_eq_ok ran
    have covered := examine_covered (checkersOf_fresh known) examining
    obtain ⟨files_eq, rfl, comments_eq, -⟩ := finish_eq_ok finishing
    obtain ⟨comments, made, placed⟩ := Review.comments_of_covered covered
    refine ⟨change, ⟨loaded, loading⟩, files_eq, covered, ⟨comments, made⟩, ?_⟩
    intro comment member
    rw [files_eq]
    unfold reviewComments at comments_eq
    split at comments_eq
    · obtain rfl := Except.ok.inj (made.symm.trans comments_eq)
      exact placed comment member
    · rw [← Except.ok.inj comments_eq] at member
      cases member
  · intro change enabled _ known checker member before examined ending after scanned
    exact scan_covered (checkersOf_fresh known checker member) scanned
  · intro change checker
    refine ⟨?_, Review.commentsOf_eq_error_iff change checker⟩
    simp only [Review.commentsOf_eq_error_iff, ← Review.exists_firstMissing_iff]
    constructor
    · rintro ⟨cause, file, first, -⟩
      exact ⟨file, first⟩
    · rintro ⟨file, first⟩
      exact ⟨_, file, first, rfl⟩

/-- A run with two comments on the one file of its change. -/
theorem start_patched_small :
    ∃ final, (start willingHost smallContext (batchConfig 1) none false).run.run smallWorld =
        (.ok smallRun, final) ∧
      ∃ change, Loads willingHost smallContext none smallWorld change ∧
        smallRun.files = change.map Prod.fst ∧ smallAnalyzer.Covered change ∧
        smallRun.comments.length = 2 ∧
        ∀ comment ∈ smallRun.comments, comment.path ∈ smallRun.files := by
  obtain ⟨final, ran⟩ := smallRun_ends (by decide : (1 : Int) ≠ 0)
  obtain ⟨-, ended, -⟩ :=
    start_patched willingHost smallContext (batchConfig 1) none false smallWorld ran
  obtain ⟨change, loads, files_eq, covered, -, placed⟩ := ended smallRun rfl
  exact ⟨final, ran, change, loads, files_eq, covered smallAnalyzer List.mem_cons_self, rfl,
    placed⟩

end Run

end LintReview
