import LintReview.Proofs.Console.Passages
import LintReview.Proofs.Diff.Patches
import LintReview.Proofs.Run.Posting

/-!
# The course of a run

A run that comes to its end has loaded its change unless it was given, has examined the files
of the change with one checker after the other, and has posted the results, and has done
nothing else (`Run.course`). A run that fails has made a beginning of that (`Run.Broken`): it
failed while it loaded the change, while a checker examined the files, or while it posted.

In both cases the world is left as the effects leave it. An effect that fails is the last one,
and its failure is the outcome of the run.
-/

namespace LintReview.Run

/-- The effects of loading the change, unless it is given. -/
def loadingEffects (context : Context) : Option Diff.Change → List Effect
  | some _ => []
  | none => [.openRepository context.repoPath, .difference context.target context.source]

/-- A run loads the change, or is given it. -/
def Loads (host : Host) (context : Context) (given : Option Diff.Change) (world : World)
    (change : Diff.Change) : Prop :=
  ∃ loaded, (changeOf host context given).run.run world = (.ok change, loaded)

/-- The effects of loading a change and of examining its files with checkers. -/
def examining (host : Host) (context : Context) (given : Option Diff.Change) (world : World)
    (files : List String) (checkers : List Checker) : List Effect :=
  loadingEffects context given ++
    examinations host context.repoPath files checkers
      (world.effects ++ loadingEffects context given)

/-- The effects of a run in which checkers have examined the files of a change. -/
def course (host : Host) (context : Context) (config : Table) (given : Option Diff.Change)
    (pullAtHand : Bool) (world : World) (change : Diff.Change) (checkers : List Checker) :
    List Effect :=
  examining host context given world (change.map Prod.fst) checkers ++
    postings context config pullAtHand world.comments checkers
      (batchesFor context config change checkers)

/-- Before all files are examined, a run posts nothing. -/
theorem posts_examining (host : Host) (context : Context) (given : Option Diff.Change)
    (world : World) (files : List String) (checkers : List Checker) :
    ∀ effect ∈ examining host context given world files checkers, effect.posts = false := by
  have loading : ∀ effect ∈ loadingEffects context given, effect.posts = false := by
    cases given <;> simp [loadingEffects, Effect.posts]
  rw [examining, List.forall_mem_append]
  exact ⟨loading, posts_examinations host _ files checkers _⟩

/-- Before it posts, a run asks nothing of the server. -/
theorem not_mem_examining (host : Host) (context : Context) (given : Option Diff.Change)
    (world : World) (files : List String) (checkers : List Checker) (call : Github.Call) :
    Effect.github call ∉ examining host context given world files checkers := by
  intro member
  have posts := posts_examining host context given world files checkers _ member
  simp [Effect.posts] at posts

section Loading

variable {host : Host} {context : Context} {given : Option Diff.Change} {world final : World}
  {change : Diff.Change}

theorem changeOf_follows :
    Session.Follows host (loadingEffects context given) (changeOf host context given) world := by
  cases given with
  | some change => exact .pure _
  | none => exact Session.loadChange_follows host _ _ _ world

/-- A change that is loaded is the change of a diff. -/
theorem loadChange_eq_ok {path target source : String}
    (ran : (Session.loadChange host path target source).run.run world = (.ok change, final)) :
    ∃ text, Diff.Change.ofDiff text = .ok change := by
  obtain ⟨_, _, _, opened⟩ := Session.run_bind_inv ran
  split at opened
  · cases opened
  · obtain ⟨_, _, _, asked⟩ := Session.run_bind_inv opened
    split at asked
    · cases asked
    · split at asked
      · next text _ _ read =>
        obtain rfl := Except.ok.inj (Prod.mk.inj asked).1
        exact ⟨_, read⟩
      · cases asked

/-- The change of a run has one patch for each file, if it does where it is given. -/
theorem Loads.distinct
    (distinct : ∀ change, given = some change → (change.map Prod.fst).Nodup)
    (loads : Loads host context given world change) : (change.map Prod.fst).Nodup := by
  obtain ⟨loaded, ran⟩ := loads
  cases given with
  | some known =>
    obtain rfl : known = change := Except.ok.inj (Prod.mk.inj ran).1
    exact distinct known rfl
  | none =>
    obtain ⟨text, read⟩ := loadChange_eq_ok ran
    exact Diff.Change.nodup_ofDiff read

end Loading

/-- What a run that has come to its end has done with a change, apart from how the comments of
    its review are cut into batches. -/
structure Completed (host : Host) (context : Context) (config : Table)
    (given : Option Diff.Change) (pullAtHand : Bool) (world : World) (change : Diff.Change)
    (run : Run) (done : List Effect) : Prop where
  loads : Loads host context given world change
  files_eq : run.files = change.map Prod.fst
  /-- The checkers are those of the configuration, each with the report that it has made. -/
  enabled : checkersOf config context.review = .ok (run.checkers.map Checker.renewed)
  /-- The formatter comes before the analyzer. -/
  in_order : (run.checkers.map Checker.title).Sublist
    [Formatter.usualProgram, Analyzer.usualProgram]
  comments_eq : reviewComments context change run.checkers = .ok run.comments
  /-- If there are comments, there is a way to cut them into batches. -/
  cut_eq : run.comments ≠ [] →
    batchesOf config run.comments = .ok (batchesFor context config change run.checkers)
  /-- The effects are those of the course of the run, and no others. -/
  done_eq : done = course host context config given pullAtHand world change run.checkers

/-- What a run that has failed has done: a beginning of its course. -/
inductive Broken (host : Host) (context : Context) (config : Table) (given : Option Diff.Change)
    (pullAtHand : Bool) (world : World) : List Effect → Prop where
  /-- It failed before any file was examined. -/
  | loading {done : List Effect} (begun : done <+: loadingEffects context given) :
      Broken host context config given pullAtHand world done
  /-- It failed while a checker examined the files. The checkers before it have finished and
      those after it have not begun. -/
  | examining {change : Diff.Change} {finished later : List Checker} {current : Checker}
      {done : List Effect} (loads : Loads host context given world change)
      (enabled : checkersOf config context.review =
        .ok (finished.map Checker.renewed ++ current :: later))
      (begun : done <+: current.launchesFor host context.repoPath
        ((change.map Prod.fst).filter (isSelected (Options.selects current.options)))
        (world.effects ++ Run.examining host context given world (change.map Prod.fst) finished)) :
      Broken host context config given pullAtHand world
        (Run.examining host context given world (change.map Prod.fst) finished ++ done)
  /-- It failed after all files had been examined. -/
  | posting {change : Diff.Change} {checkers : List Checker} {done : List Effect}
      (loads : Loads host context given world change)
      (enabled : checkersOf config context.review = .ok (checkers.map Checker.renewed))
      (begun : done <+: postings context config pullAtHand world.comments checkers
        (batchesFor context config change checkers)) :
      Broken host context config given pullAtHand world
        (Run.examining host context given world (change.map Prod.fst) checkers ++ done)

section Stages

variable {host : Host} {context : Context} {config : Table} {given : Option Diff.Change}
  {pullAtHand : Bool} {world loaded examined final : World} {change : Diff.Change}
  {checkers enabled : List Checker}

/-- The change has been loaded and its files have been examined. -/
theorem examining_traced (distinct : (change.map Prod.fst).Nodup)
    (fresh : ∀ checker ∈ enabled, checker.report = .empty)
    (loading : (changeOf host context given).run.run world = (.ok change, loaded))
    (ran : (examine host context.repoPath (change.map Prod.fst) enabled).run.run loaded =
      (.ok checkers, examined)) :
    checkers.map Checker.renewed = enabled ∧ examined.comments = world.comments ∧
      Traced host world (.ok () : Except Failure Unit) examined
        (examining host context given world (change.map Prod.fst) checkers) := by
  have first := (changeOf_follows.traced_ok loading : Traced host world _ loaded _)
  have second := examine_launched distinct fresh ran
  rw [first.effects_eq] at second
  have both := first.append second
  have uncommented := both.comments_eq fun body =>
    not_mem_examining host context given world _ checkers (.createComment body)
  exact ⟨(examine_scanned fresh ran).1, uncommented, both⟩

/-- A run that comes to its end has gone through its course. -/
theorem start_completed
    (distinct : ∀ change, given = some change → (change.map Prod.fst).Nodup) {run : Run}
    (ran : (start host context config given pullAtHand).run.run world = (.ok run, final)) :
    ∃ change done, Traced host world (.ok run : Except Failure Run) final done ∧
      Completed host context config given pullAtHand world change run done := by
  obtain ⟨change, loaded, enabled, checkers, examined, loading, checkersKnown, examinedRan,
    finishing⟩ := start_eq_ok ran
  have loads : Loads host context given world change := ⟨loaded, loading⟩
  obtain ⟨renewed, uncommented, before⟩ := examining_traced (loads.distinct distinct)
    (checkersOf_fresh checkersKnown) loading examinedRan
  have after := (finish_follows pullAtHand change checkers).traced_ok finishing
  rw [uncommented] at after
  obtain ⟨files_eq, rfl, comments_eq, cut_eq⟩ := finish_eq_ok finishing
  have enabled_eq : checkersOf config context.review =
      .ok (run.checkers.map Checker.renewed) := renewed ▸ checkersKnown
  have titles := checkersOf_titles enabled_eq
  rw [List.map_map] at titles
  exact ⟨change, _, before.append after, loads, files_eq, enabled_eq, titles, comments_eq,
    cut_eq, rfl⟩

/-- A run that fails has made a beginning of its course. -/
theorem start_broken
    (distinct : ∀ change, given = some change → (change.map Prod.fst).Nodup) {cause : Failure}
    (ran : (start host context config given pullAtHand).run.run world = (.error cause, final)) :
    ∃ done, Traced host world (.error cause : Except Failure Run) final done ∧
      Broken host context config given pullAtHand world done := by
  rw [start_eq] at ran
  rcases loading : (changeOf host context given).run.run world with ⟨outcome, loaded⟩
  cases outcome with
  | error other =>
    rw [Session.run_bind_error loading] at ran
    cases ran
    obtain ⟨done, traced, begun, -⟩ := changeOf_follows _ _ loading
    exact ⟨done, traced.outcome_congr (by rintro _ ⟨⟩; rfl), .loading begun⟩
  | ok change =>
    rw [Session.run_bind_ok loading] at ran
    have loads : Loads host context given world change := ⟨loaded, loading⟩
    have first := (changeOf_follows.traced_ok loading : Traced host world _ loaded _)
    cases known : checkersOf config context.review with
    | error other =>
      rw [known] at ran
      cases ran
      exact ⟨_, first.outcome_congr (by rintro _ ⟨⟩), .loading List.prefix_rfl⟩
    | ok enabled =>
      rw [known] at ran
      have fresh := checkersOf_fresh known
      have checked : (liftM (Except.ok enabled : Except Failure (List Checker)) :
          Session (List Checker)).run.run loaded = (.ok enabled, loaded) := rfl
      rw [Session.run_bind_ok checked] at ran
      rcases examinedRan : (examine host context.repoPath (change.map Prod.fst) enabled).run.run
        loaded with ⟨ending, examined⟩
      cases ending with
      | error other =>
        rw [Session.run_bind_error examinedRan] at ran
        cases ran
        obtain ⟨finished, current, later, done, rfl, second, begun⟩ :=
          examine_interrupted (loads.distinct distinct) fresh examinedRan
        rw [first.effects_eq] at second begun
        have both := first.append second
        rw [← List.append_assoc] at both
        rw [List.append_assoc] at begun
        exact ⟨_, both.outcome_congr (by rintro _ ⟨⟩; rfl), .examining loads known begun⟩
      | ok checkers =>
        rw [Session.run_bind_ok examinedRan] at ran
        obtain ⟨renewed, uncommented, before⟩ :=
          examining_traced (loads.distinct distinct) fresh loading examinedRan
        obtain ⟨done, after, begun, -⟩ := finish_follows pullAtHand change checkers _ _ ran
        rw [uncommented] at begun
        exact ⟨_, before.append after, .posting loads (renewed ▸ known) begun⟩

end Stages

/-- The comments of a review are cut into batches of a positive size. -/
theorem batchesFor_batched {context : Context} {config : Table} {change : Diff.Change}
    {checkers : List Checker} {comments : List Github.InlineComment} {size : Int}
    (known : batchSizeOf config = .ok size) (positive : 0 < size)
    (made : reviewComments context change checkers = .ok comments) :
    Review.Batched size.toNat comments (batchesFor context config change checkers) := by
  have nonzero : size ≠ 0 := by omega
  have cut : 0 < size.toNat := by omega
  unfold batchesFor batchesPosted
  rw [made]
  simp only [batchesOf_eq known, if_neg nonzero]
  exact Review.batched_batches cut comments

/-- The diff of a change to one file, without its last newline. -/
def smallDiff : String :=
  "diff --git a/a.cpp b/a.cpp\n--- a/a.cpp\n+++ b/a.cpp\n@@ -1,1 +1,2 @@\n x\n+y"

/-- The change that the diff describes. -/
def smallChange : Diff.Change :=
  [("a.cpp", ⟨"a.cpp", [⟨"@@ -1,1 +1,2 @@", 1, 1, 1, 2, 2⟩], .modified⟩)]

/-- What the analyzer writes on the file: a finding in each of its two rows. -/
def twoFindingsText : String := "a.cpp:1:1: warning: bad [x]\na.cpp:2:1: warning: bad [x]\n"

/-- Surroundings that answer all that a run asks. -/
def willingHost : Host where
  outcome _ _ := .finished 0 (Text.encode twoFindingsText.toList) []
  openError _ _ := none
  difference _ _ _ := .ok smallDiff
  refusal _ _ := none
  login := "bot"

/-- A configuration without the formatter, with batches of the given size. -/
def batchConfig (size : Int) : Table :=
  [(.text "bot_login", .text "bot"), (.text "batch_limit", .integer size),
    (.text "clang_format", .table [(.text "enabled", .flag false)]),
    (.text "clang_tidy", .table [])]

/-- A context that asks for everything. -/
def smallContext : Context where
  isLocal := false
  target := "main"
  source := "topic"
  repoPath := "/repo"
  eventName := "pull_request"
  prNumber := some 7
  stepSummary := true
  comment := true
  review := true
  stepSummaryPath := "summary"
  outputPath := "output"

/-- A world with a comment that the bot has made before. -/
def smallWorld : World := ⟨⟨[]⟩, [⟨3, some "bot"⟩], 4, "", []⟩

/-- The finding in a row. -/
def smallFinding (row : Int) : Diagnostic := ⟨"a.cpp", row, 1, "warning", " bad ", "[x]", ""⟩

/-- The analyzer after it has examined the file. -/
def smallAnalyzer : Checker where
  kind := .analyzer
  options := []
  report := { Report.empty with
    failed := [("a.cpp", {
      file := "a.cpp"
      passed := false
      diagnostics := [smallFinding 1, smallFinding 2]
      output := twoFindingsText
      statistics := some {} })] }

/-- The run at its end. -/
def smallRun : Run where
  files := ["a.cpp"]
  checkers := [smallAnalyzer]
  comments := [⟨"a.cpp", 1, "bad [x]"⟩, ⟨"a.cpp", 2, "bad [x]"⟩]
  commentId := some 3

/-- A checker that examines files alone, with a single effect. -/
theorem examine_alone {host : Host} {folder : String} {files : List String}
    {checker examined : Checker} {effect : Effect}
    (name : Console.IsPlain checker.programName.toList)
    (scanned : ∀ world, (checker.scan host folder files).run world =
      ((examined, .ok ()), world.record effect)) (world : World) :
    ∃ shown, (examine host folder files [checker]).run.run world =
      (.ok [examined],
        { world with console := shown, effects := world.effects ++ [effect] }) := by
  obtain ⟨shown, said⟩ :=
    Session.say_run (Console.Message.isSome_running name files.length) world
  let after : World := { world with console := shown }
  have lifted := Session.liftState_run (scanned after)
  have alone : (examineWith host folder files checker).run.run world =
      (.ok examined, after.record effect) :=
    (Session.run_bind_ok said).trans ((Session.run_bind_ok lifted).trans rfl)
  exact ⟨shown, (Session.run_bind_ok alone).trans rfl⟩

/-- The analyzer examines the file. -/
theorem smallRun_scans (world : World) :
    ((Checker.new .analyzer []).scan willingHost "/repo" ["a.cpp"]).run world =
      ((smallAnalyzer, .ok ()),
        world.record (.launch (Analyzer.request [] "/repo" "a.cpp"))) := by
  rfl

/-- Where no call is refused, all batches are posted. -/
theorem smallRun_posts (batches : List (List Github.InlineComment)) (world : World) :
    (postBatches willingHost batches).run.run world =
      (.ok (), { world with effects := world.effects ++ reviewEffects batches }) := by
  induction batches generalizing world with
  | nil =>
    rw [reviewEffects, List.map_nil, List.append_nil]
    rfl
  | cons batch rest inductionHypothesis =>
    have posted := Session.ask_run willingHost (.createReview reviewBody batch) world
    refine (Session.run_bind_ok posted).trans ?_
    rw [inductionHypothesis]
    simp [World.record, reviewEffects]

/-- The review is posted in batches of any size but nought. -/
theorem smallRun_reviews {size : Int} (nonzero : size ≠ 0) (world : World) :
    ∃ shown, (reviewFor willingHost smallContext (batchConfig size) smallChange
      [smallAnalyzer]).run.run world =
        (.ok smallRun.comments,
          { world with
            console := shown
            effects := world.effects ++
              reviewEffects (Review.batches size.toNat smallRun.comments) }) := by
  have made : (liftM (Review.comments smallChange [smallAnalyzer]) :
      Session (List Github.InlineComment)).run.run world = (.ok smallRun.comments, world) := by
    rfl
  have cut : (liftM (batchesOf (batchConfig size) smallRun.comments) :
      Session (List (List Github.InlineComment))).run.run world =
        (.ok (Review.batches size.toNat smallRun.comments), world) := by
    rw [batchesOf_eq rfl, if_neg nonzero]
    rfl
  have posted := smallRun_posts (Review.batches size.toNat smallRun.comments) world
  obtain ⟨shown, said⟩ := Session.say_run (Console.Message.isSome_reviewPosted 2)
    { world with
      effects := world.effects ++ reviewEffects (Review.batches size.toNat smallRun.comments) }
  have review : (postReview willingHost (batchConfig size) smallRun.comments).run.run world =
      (.ok (),
        { world with
          console := shown
          effects := world.effects ++
            reviewEffects (Review.batches size.toNat smallRun.comments) }) :=
    (Session.run_bind_ok cut).trans ((Session.run_bind_ok posted).trans said)
  exact ⟨shown, (Session.run_bind_ok made).trans ((Session.run_bind_ok review).trans rfl)⟩

/-- The results are posted. -/
theorem smallRun_finishes {size : Int} (nonzero : size ≠ 0) (shown : String)
    (done : List Effect) :
    ∃ final, (finish willingHost smallContext (batchConfig size) false smallChange
      [smallAnalyzer]).run.run { smallWorld with console := shown, effects := done } =
        (.ok smallRun, final) := by
  let printed : World :=
    { smallWorld with
      console := shown ++ Console.Message.results [smallAnalyzer] 1
      effects := done }
  let summary := Summary.stepSummary [smallAnalyzer]
  let summed : World :=
    { printed with files := ⟨[(["summary"], Text.encode summary.toList)]⟩ }.record
      (.append "summary" summary)
  let opened : World := ((summed.record (.github (.connect ""))).record
    (.github (.repository ""))).record (.github (.pull (some 7)))
  let commented : World := ((opened.record (.github .listComments)).record
    (.github (.findComment 3))).record
      (.github (.editComment 3 (Summary.issueComment [smallAnalyzer])))
  have written : (writeSummary smallContext [smallAnalyzer]).run.run printed =
      (.ok (), summed) := by rfl
  have asked : (openFor willingHost smallContext false).run.run summed = (.ok (), opened) := by
    rfl
  have kept : (commentFor willingHost smallContext (batchConfig size) [smallAnalyzer]).run.run
      opened = (.ok (some 3), commented) := by rfl
  obtain ⟨said, reviewed⟩ := smallRun_reviews nonzero commented
  have saved : ∃ final, (writeOutput smallContext [smallAnalyzer]).run.run
      { commented with
        console := said
        effects := commented.effects ++
          reviewEffects (Review.batches size.toNat smallRun.comments) } = (.ok (), final) :=
    ⟨_, rfl⟩
  obtain ⟨final, saved⟩ := saved
  refine ⟨final, ?_⟩
  refine (Session.run_bind_ok (rfl : _ = (Except.ok (), printed))).trans ?_
  refine (Session.run_bind_ok written).trans ?_
  refine (Session.run_bind_ok asked).trans ?_
  refine (Session.run_bind_ok kept).trans ?_
  refine (Session.run_bind_ok reviewed).trans ?_
  exact (Session.run_bind_ok saved).trans rfl

/-- The run comes to its end with batches of any size but nought. -/
theorem smallRun_ends {size : Int} (nonzero : size ≠ 0) :
    ∃ final, (start willingHost smallContext (batchConfig size) none false).run.run smallWorld =
      (.ok smallRun, final) := by
  let loaded : World := { smallWorld with effects := loadingEffects smallContext none }
  have loading : (changeOf willingHost smallContext none).run.run smallWorld =
      (.ok smallChange, loaded) := by rfl
  have enabled : (liftM (checkersOf (batchConfig size) smallContext.review) :
      Session (List Checker)).run.run loaded = (.ok [.new .analyzer []], loaded) := rfl
  obtain ⟨shown, examined⟩ := examine_alone (by decide) smallRun_scans loaded
  obtain ⟨final, finished⟩ := smallRun_finishes nonzero shown
    (loaded.effects ++ [.launch (Analyzer.request [] "/repo" "a.cpp")])
  refine ⟨final, ?_⟩
  rw [start_eq]
  refine (Session.run_bind_ok loading).trans ?_
  refine (Session.run_bind_ok enabled).trans ?_
  exact (Session.run_bind_ok examined).trans finished

end LintReview.Run
