import LintReview.Checker.Basic
import LintReview.Proofs.Checker.ScanPartition
import LintReview.Proofs.Host.Traces

/-!
# The launches of a checker

A checker acts on the world by launching its program, and by nothing else. For a file it is
the launch that the analyzer or the formatter makes, and a second launch if the formatted text
is wanted and the first one could be read. The launches for several files follow one another
in the order of the files (`Checker.launchesFor`).

A scan launches for the files that it checks, in their order. Which files these are can be
read off the report that it leaves (`Checker.checkedFiles`). A scan that fails altogether has
made a beginning of the launches for all selected files.
-/

namespace LintReview

/-- The effect asks something of the server or puts text into a file. -/
def Effect.posts : Effect → Bool
  | .github _ | .append _ _ => true
  | .launch _ | .openRepository _ | .difference _ _ => false

/-- The name of the program that is run, once it is known to be one. -/
theorem Options.program_eq_ok {options : Table} {usual name : String}
    (named : Options.program options usual = .ok name) :
    name = Options.programName options usual := by
  unfold Options.program at named
  unfold Options.programName
  split at named
  · next absent =>
    rw [absent]
    exact (Except.ok.inj named).symm
  · next text given =>
    rw [given]
    exact (Except.ok.inj named).symm
  · cases named

/-- The launch of the analyzer for a file. -/
def Analyzer.request (options : Table) (folder file : String) : Launch :=
  ⟨Options.programName options usualProgram, arguments options file, some folder⟩

namespace Formatter

/-- The launch of the formatter that asks for the changes to a file. -/
def request (options : Table) (folder file : String) : Launch :=
  ⟨Options.programName options usualProgram, ["--output-replacements-xml", file], some folder⟩

/-- The launch of the formatter that asks for the formatted text of a file. -/
def textRequest (options : Table) (folder file : String) : Launch :=
  ⟨Options.programName options usualProgram, [file], some folder⟩

/-- A launch, made after the given effects, ended well and gave changes that can be read. -/
def isReadable (host : Host) (before : List Effect) (request : Launch) : Bool :=
  match CommandResult.ofOutcome request (host.outcome before request) with
  | .ok run => run.exitCode = 0 && (Replacement.ofReport run.output).isOk
  | .error _ => false

/-- The second launch of the formatter for a file, if there is one, where the first was made
    after the given effects. -/
def secondLaunch (host : Host) (options : Table) (wantsText : Bool) (folder file : String)
    (before : List Effect) : List Effect :=
  if wantsText && isReadable host before (request options folder file) then
    [.launch (textRequest options folder file)]
  else []

/-- The launches of the formatter for a file, after the given effects. -/
def launches (host : Host) (options : Table) (wantsText : Bool) (folder file : String)
    (before : List Effect) : List Effect :=
  .launch (request options folder file) :: secondLaunch host options wantsText folder file before

end Formatter

namespace Checker

/-- The launches of a checker for a file, after the given effects. -/
def launches (host : Host) (checker : Checker) (folder file : String) (before : List Effect) :
    List Effect :=
  match checker.kind with
  | .formatter wantsText =>
    Formatter.launches host checker.options wantsText folder file before
  | .analyzer => [.launch (Analyzer.request checker.options folder file)]

/-- The launches of a checker for files, one after the other, after the given effects. -/
def launchesFor (host : Host) (checker : Checker) (folder : String) :
    List String → List Effect → List Effect
  | [], _ => []
  | file :: rest, before =>
    let first := checker.launches host folder file before
    first ++ launchesFor host checker folder rest (before ++ first)

theorem launchesFor_append (host : Host) (checker : Checker) (folder : String)
    (files others : List String) (before : List Effect) :
    checker.launchesFor host folder (files ++ others) before =
      checker.launchesFor host folder files before ++
        checker.launchesFor host folder others
          (before ++ checker.launchesFor host folder files before) := by
  induction files generalizing before with
  | nil => simp [launchesFor]
  | cons file rest inductionHypothesis =>
    simp only [List.cons_append, launchesFor, inductionHypothesis, List.append_assoc]

/-- Launching posts nothing. -/
theorem posts_launchesFor (host : Host) (checker : Checker) (folder : String)
    (files : List String) (before : List Effect) :
    ∀ effect ∈ checker.launchesFor host folder files before, effect.posts = false := by
  induction files generalizing before with
  | nil => simp [launchesFor]
  | cons file rest inductionHypothesis =>
    have first : ∀ effect ∈ checker.launches host folder file before, effect.posts = false := by
      unfold launches
      split
      · unfold Formatter.launches Formatter.secondLaunch
        split <;> simp [Effect.posts]
      · simp [Effect.posts]
    rw [launchesFor, List.forall_mem_append]
    exact ⟨first, inductionHypothesis _⟩

end Checker

/-! ## Checking a file -/

/-- The analyzer launches its program once. -/
theorem Analyzer.check_follows (host : Host) (options : Table) (folder file : String)
    (world : World) :
    Session.Follows host [.launch (request options folder file)]
      (check host options folder file) world := by
  refine (Session.Follows.lift _).bind_silent fun program middle named => ?_
  obtain ⟨known, rfl⟩ := Prod.mk.inj named
  obtain rfl := Options.program_eq_ok known
  exact (Session.execute_follows host _ _ folder world).bind_quiet fun _ _ _ => .lift _

/-- Checking a file with the analyzer is its launch, and what is made of the outcome. -/
theorem Analyzer.check_run {host : Host} {options : Table} {folder file program : String}
    {world : World} (named : Options.program options usualProgram = .ok program) :
    (check host options folder file).run.run world =
      ((CommandResult.ofOutcome (request options folder file)
          (host.outcome world.effects (request options folder file))).mapError
            (.launch · (request options folder file)) >>= fun run =>
              (resultOf file run).mapError .number,
        world.record (.launch (request options folder file))) := by
  obtain rfl := Options.program_eq_ok named
  have ran : (Session.execute host (Options.programName options usualProgram)
      (arguments options file) folder).run.run world =
        ((CommandResult.ofOutcome (request options folder file)
            (host.outcome world.effects (request options folder file))).mapError
              (.launch · (request options folder file)),
          world.record (.launch (request options folder file))) :=
    Session.execute_run host _ _ folder world
  rw [check, named, Session.run_bind_ok (Session.lift_run _)]
  cases answered : CommandResult.ofOutcome (request options folder file)
      (host.outcome world.effects (request options folder file)) with
  | error cause =>
    rw [answered] at ran
    rw [Session.run_bind_error ran]
    rfl
  | ok run =>
    rw [answered] at ran
    rw [Session.run_bind_ok ran]
    rfl

/-- Finding the touched rows launches nothing. -/
theorem Formatter.locate_follows (host : Host) (folder file : String)
    (replacements : List Replacement) (formatted : Option String) (world : World) :
    Session.Follows host [] (locate folder file replacements formatted) world := by
  have reads : (Session.read (pathIn folder file)).run.run world =
      (.ok (world.files.read (pathIn folder file)), world) := rfl
  unfold locate
  split
  · exact .pure _
  · refine (Session.Follows.of_run reads rfl).bind_silent fun found middle _ => ?_
    split
    · exact .pure _
    · exact .of_run rfl rfl
    · exact .pure _

/-- A program that was run gave what its launch was answered with. -/
theorem Session.ofOutcome_of_execute {host : Host} {program : String} {arguments : List String}
    {folder : String} {world final : World} {run : CommandResult}
    (ran : (Session.execute host program arguments folder).run.run world = (.ok run, final)) :
    CommandResult.ofOutcome ⟨program, arguments, some folder⟩
      (host.outcome world.effects ⟨program, arguments, some folder⟩) = .ok run := by
  rw [Session.execute_run] at ran
  obtain ⟨answered, -⟩ := Prod.mk.inj ran
  cases found : CommandResult.ofOutcome ⟨program, arguments, some folder⟩
      (host.outcome world.effects ⟨program, arguments, some folder⟩) with
  | ok result =>
    rw [found] at answered
    exact congrArg Except.ok (Except.ok.inj answered)
  | error cause =>
    rw [found] at answered
    cases answered

/-- After its first launch, the formatter launches its program again if the answer can be read
    and the formatted text is wanted. -/
theorem Formatter.check_follows (host : Host) (options : Table) (wantsText : Bool)
    (folder file : String) (world : World) :
    Session.Follows host (launches host options wantsText folder file world.effects)
      (check host options wantsText folder file) world := by
  apply (Session.Follows.lift _).bind_silent
  intro program start named
  obtain ⟨known, rfl⟩ := Prod.mk.inj named
  obtain rfl := Options.program_eq_ok known
  change Session.Follows host ([.launch (request options folder file)] ++
    secondLaunch host options wantsText folder file _) _ _
  apply (Session.execute_follows host _ _ folder _).bind
  intro first middle ran
  have answered := Session.ofOutcome_of_execute ran
  unfold secondLaunch
  by_cases well : first.exitCode = 0
  · cases readable : Replacement.ofReport first.output with
    | error problem =>
      have unread : isReadable host world.effects (request options folder file) = false := by
        simp only [isReadable, request, answered, readable]
        exact Bool.and_false _
      simp only [well, unread, ne_eq, not_true_eq_false, if_false, Bool.and_false,
        Bool.false_eq_true]
      exact .pure _
    | ok replacements =>
      have read : isReadable host world.effects (request options folder file) = true := by
        simp only [isReadable, request, answered, readable, well, decide_true]
        rfl
      simp only [well, read, ne_eq, not_true_eq_false, if_false, Bool.and_true]
      cases wantsText with
      | false =>
        apply (Session.Follows.pure none).bind_silent
        intro second last _
        exact (Formatter.locate_follows host folder file _ _ _).bind_quiet fun _ _ _ => .pure _
      | true =>
        have again : Session.Follows host [.launch (textRequest options folder file)]
            (some <$> Session.execute host (Options.programName options usualProgram) [file]
              folder) middle := by
          rw [map_eq_pure_bind]
          exact (Session.execute_follows host _ _ folder middle).bind_quiet fun _ _ _ => .pure _
        apply again.bind_quiet
        intro second last _
        exact (Formatter.locate_follows host folder file _ _ _).bind_quiet fun _ _ _ => .pure _
  · have unread : isReadable host world.effects (request options folder file) = false := by
      simp [isReadable, request, answered, well]
    simp only [well, unread, ne_eq, not_false_eq_true, if_true, Bool.and_false,
      Bool.false_eq_true, if_false]
    exact .pure _

/-- A checker makes its launches for the file. -/
theorem Checker.check_follows (host : Host) (checker : Checker) (folder file : String)
    (world : World) :
    Session.Follows host (checker.launches host folder file world.effects)
      (checker.check host folder file) world := by
  unfold launches check
  cases checker.kind with
  | formatter wantsText => exact Formatter.check_follows host _ wantsText folder file world
  | analyzer => exact Analyzer.check_follows host _ folder file world

/-! ## Scanning files -/

/-- A scan with a checker keeps the report of the scan. -/
theorem Checker.scan_run {host : Host} {checker : Checker} {folder : String} {files : List String}
    {report : Report} {ending : Except Failure Unit} {world final : World}
    (ran : (LintReview.scan (Options.selects checker.options) (checker.check host folder)
      (Options.stopsEarly checker.options) files checker.report).run world =
        ((report, ending), final)) :
    (checker.scan host folder files).run world =
      (({ checker with report := report }, ending), final) := by
  rw [scan, StateT.run_bind, ran]
  rfl

/-- A scan that comes to its end makes the launches for the files that it checks, one file
    after the other. -/
theorem Scans.launched {host : Host} {checker : Checker} {folder : String}
    {selects : String → Except Failure Bool} {stopsEarly : Bool} {files examined : List String}
    {applied : List (String × FileResult)} {report last : Report} {world final : World}
    (scans : Scans selects (checker.check host folder) stopsEarly files report world
      examined applied last final) :
    Traced host world (.ok () : Except Failure Unit) final
      (checker.launchesFor host folder (applied.map Prod.fst) world.effects) := by
  induction scans with
  | done report world => exact .nothing _ rfl
  | ignored unselected tail inductionHypothesis => exact inductionHypothesis
  | @checked file _ _ world result next _ applied _ _ selected found goesOn tail
      inductionHypothesis =>
    have first := (checker.check_follows host folder file world).traced_ok found
    rw [first.effects_eq] at inductionHypothesis
    exact first.append inductionHypothesis
  | @stopped file _ _ world result _ selected found failed early =>
    have only := (checker.check_follows host folder file world).traced_ok found
    rw [List.map_singleton, Checker.launchesFor, Checker.launchesFor, List.append_nil]
    exact only.outcome_congr (by rintro _ ⟨⟩)

/-- A scan that fails altogether has made a beginning of the launches for all selected
    files. -/
theorem Checker.launched_of_interrupted {host : Host} {checker : Checker} {folder : String}
    {selects : String → Except Failure Bool} {stopsEarly : Bool} {files : List String}
    {report last : Report} {cause : Failure} {world final : World}
    (ran : (LintReview.scan selects (checker.check host folder) stopsEarly files report).run
      world = ((last, .error cause), final)) :
    ∃ done, Traced host world (.error cause : Except Failure Unit) final done ∧
      done <+: checker.launchesFor host folder (files.filter (isSelected selects))
        world.effects := by
  obtain ⟨before, file, later, applied, middle, rfl, scans, -, failure⟩ := scan_interrupted ran
  have begun := scans.launched
  rw [scans.applied_files] at begun
  rw [List.filter_append, launchesFor_append]
  rcases failure with ⟨-, rfl⟩ | ⟨selected, raised⟩
  · refine ⟨_, begun.outcome_congr (by rintro _ ⟨⟩), List.prefix_append _ _⟩
  · obtain ⟨done, traced, partly, -⟩ := checker.check_follows host folder file middle _ _ raised
    have kept : isSelected selects file = true := by simp [isSelected, selected]
    refine ⟨_, begun.append (traced.outcome_congr fun _ same => ?_), ?_⟩
    · cases same
      rfl
    · rw [List.filter_cons_of_pos kept, launchesFor, ← begun.effects_eq]
      exact (List.prefix_append_right_inj _).mpr (partly.trans (List.prefix_append _ _))

namespace Checker

/-- The checker before it has examined anything. -/
def renewed (checker : Checker) : Checker := .new checker.kind checker.options

/-- The files that a checker has looked at, as its report shows: those up to the first that
    failed, if it stops there, and otherwise all. -/
def lookedAt (checker : Checker) (files : List String) : List String :=
  if Options.stopsEarly checker.options then
    throughFirst (fun file => file ∈ checker.report.failed.map Prod.fst) files
  else files

/-- The files that a checker has checked, as its report shows. -/
def checkedFiles (checker : Checker) (files : List String) : List String :=
  (checker.lookedAt files).filter (isSelected (Options.selects checker.options))

end Checker

/-- A file failed exactly if the report has it among those that failed. -/
theorem Partition.failedIn_eq {selected : String → Bool} {stopsEarly : Bool}
    {files examined : List String} {applied : List (String × FileResult)} {report : Report}
    (partition : Partition selected stopsEarly files examined applied report) (file : String) :
    failedIn applied file = decide (file ∈ report.failed.map Prod.fst) := by
  rw [partition.failed_eq, failedIn, Bool.eq_iff_iff, List.any_eq_true, decide_eq_true_iff,
    List.mem_map]
  constructor
  · rintro ⟨entry, member, fails⟩
    rw [Bool.and_eq_true, decide_eq_true_iff] at fails
    exact ⟨entry, List.mem_filter.mpr ⟨member, fails.2⟩, fails.1⟩
  · rintro ⟨entry, member, rfl⟩
    obtain ⟨inside, fails⟩ := List.mem_filter.mp member
    exact ⟨entry, inside, by simpa using fails⟩

/-- The files that the check was applied to can be read off the report. -/
theorem Partition.applied_eq_checkedFiles {checker : Checker} {files examined : List String}
    {applied : List (String × FileResult)}
    (partition : Partition (isSelected (Options.selects checker.options))
      (Options.stopsEarly checker.options) files examined applied checker.report) :
    applied.map Prod.fst = checker.checkedFiles files := by
  have looked : examined = checker.lookedAt files := by
    rw [partition.examined_eq, Checker.lookedAt,
      throughFirst_congr fun file _ => partition.failedIn_eq file]
  rw [partition.applied_eq, looked, Checker.checkedFiles]

end LintReview
