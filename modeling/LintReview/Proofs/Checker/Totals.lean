import LintReview.Proofs.Checker.AnalyzerVerdict
import Mathlib.Algebra.BigOperators.Group.List.Basic
import Mathlib.Algebra.Ring.Int.Defs

/-!
# The totals of the analyzer

A checker may scan several times, each time the files of a folder, and keeps one report over
all its scans (`Checker.scanRounds`). The results that the report keeps are put into two
collections by what the analyzer found; its totals are those of both.

A run of the analyzer is accounted for by its launch, what it gave and what it counts on its
error output (`CountedRun`). While no file comes twice, each launch adds one result to the
report, so the totals are the sum over all runs (`totals_of_rounds`). The order of the runs
shows in the totals only as far as the runs themselves depend on it.
-/

namespace LintReview

/-! ## Scanning in rounds -/

/-- Scans the files of one folder after those of the other, up to the first scan that fails
    altogether. -/
def Checker.scanRounds (host : Host) :
    Checker → List (String × List String) → StateM World (Checker × Except Failure Unit)
  | checker, [] => pure (checker, .ok ())
  | checker, (folder, files) :: rest => do
    match ← checker.scan host folder files with
    | (scanned, .error cause) => pure (scanned, .error cause)
    | (scanned, .ok ()) => scanned.scanRounds host rest

/-- The files of all rounds, each with its folder. -/
def placedFiles (rounds : List (String × List String)) : List (String × String) :=
  rounds.flatMap fun (folder, files) => files.map (Prod.mk folder)

theorem placedFiles_cons (folder : String) (files : List String)
    (rest : List (String × List String)) :
    placedFiles ((folder, files) :: rest) = files.map (Prod.mk folder) ++ placedFiles rest :=
  List.flatMap_cons

/-- The files of all rounds, without their folders. -/
theorem snd_placedFiles (rounds : List (String × List String)) :
    (placedFiles rounds).map Prod.snd = rounds.flatMap Prod.snd := by
  induction rounds with
  | nil => rfl
  | cons round rest inductionHypothesis =>
    obtain ⟨folder, files⟩ := round
    rw [placedFiles_cons, List.map_append, List.map_map, inductionHypothesis, List.flatMap_cons]
    simp [Function.comp_def]

section Scans

variable {ε σ : Type} {selects : String → Except ε Bool}
  {check : String → ExceptT ε (StateM σ) FileResult} {stopsEarly : Bool}
  {files examined : List String} {applied : List (String × FileResult)} {report last : Report}
  {state final : σ}

/-- The results of a report after a scan of new files are those before and those of the scan,
    in some order. -/
theorem Scans.results_perm (distinct : files.Nodup) (new : ∀ file ∈ files, ¬ report.Knows file)
    (scans : Scans selects check stopsEarly files report state examined applied last final) :
    last.results.Perm (report.results ++ applied.map Prod.snd) := by
  obtain ⟨passed, failed⟩ := scans.results_eq distinct new
  have regrouped : (last.passed ++ last.failed).Perm
      ((report.passed ++ report.failed) ++ applied) := by
    rw [passed, failed, List.append_assoc, List.append_assoc]
    refine .append_left _ ?_
    refine (List.perm_append_comm_assoc _ _ _).trans (.append_left _ ?_)
    exact List.filter_append_perm (fun entry => entry.2.passed) applied
  simpa [Report.results] using regrouped.map Prod.snd

/-- The report that a scan starts with changes nothing but the report that it leaves. -/
theorem Scans.restarted (other : Report)
    (scans : Scans selects check stopsEarly files report state examined applied last final) :
    ∃ left, Scans selects check stopsEarly files other state examined applied left final := by
  induction scans generalizing other with
  | done report state => exact ⟨other, .done _ _⟩
  | ignored unselected tail inductionHypothesis =>
    obtain ⟨left, again⟩ := inductionHypothesis (other.ignore _)
    exact ⟨left, .ignored unselected again⟩
  | checked selected found goesOn tail inductionHypothesis =>
    obtain ⟨left, again⟩ := inductionHypothesis (other.add _ _)
    exact ⟨left, .checked selected found goesOn again⟩
  | stopped selected found failed early => exact ⟨_, .stopped selected found failed early⟩

/-- Every result was given by the check, in some state. -/
theorem Scans.found
    (scans : Scans selects check stopsEarly files report state examined applied last final) :
    ∀ entry ∈ applied, ∃ before, ((check entry.1).run.run before).1 = .ok entry.2 := by
  induction scans with
  | done report state => simp
  | ignored unselected tail inductionHypothesis => exact inductionHypothesis
  | checked selected found goesOn tail inductionHypothesis =>
    exact List.forall_mem_cons.mpr ⟨⟨_, congrArg Prod.fst found⟩, inductionHypothesis⟩
  | stopped selected found failed early =>
    exact List.forall_mem_cons.mpr ⟨⟨_, congrArg Prod.fst found⟩, by simp⟩

/-- A scan comes to its end if of each file it is known whether it is selected and the check
    always gives a result for those that are. -/
theorem exists_scans (stopsEarly : Bool)
    (known : ∀ file ∈ files, selects file = .ok (isSelected selects file))
    (checks : ∀ file ∈ files, isSelected selects file = true →
      ∀ state, ∃ result, ((check file).run.run state).1 = .ok result)
    (report : Report) (state : σ) :
    ∃ examined applied last final,
      Scans selects check stopsEarly files report state examined applied last final := by
  induction files generalizing report state with
  | nil => exact ⟨[], [], report, state, .done _ _⟩
  | cons file rest inductionHypothesis =>
    have later := inductionHypothesis (fun other member => known other (.tail _ member))
      (fun other member => checks other (.tail _ member))
    have readable := known file List.mem_cons_self
    cases selected : isSelected selects file with
    | false =>
      rw [selected] at readable
      obtain ⟨examined, applied, last, final, tail⟩ := later (report.ignore file) state
      exact ⟨_, _, _, _, .ignored readable tail⟩
    | true =>
      rw [selected] at readable
      obtain ⟨result, given⟩ := checks file List.mem_cons_self selected state
      have found : (check file).run.run state = (.ok result, ((check file).run.run state).2) :=
        Prod.ext given rfl
      by_cases goesOn : result.passed = true ∨ stopsEarly = false
      · obtain ⟨examined, applied, last, final, tail⟩ :=
          later (report.add file result) ((check file).run.run state).2
        exact ⟨_, _, _, _, .checked readable found goesOn tail⟩
      · obtain ⟨failed, early⟩ : result.passed = false ∧ stopsEarly = true := by
          simpa using goesOn
        exact ⟨_, _, _, _, .stopped readable found failed early⟩

end Scans

namespace Analyzer

/-- The launch for a file and its folder. -/
def requestFor (options : Table) (placed : String × String) : Launch :=
  request options placed.1 placed.2

/-- Rounds that come to their end: from a report and a world, through the results of the files
    that are checked, to a report and a world. Each round goes on with the report of the one
    before. -/
inductive ScansRounds (host : Host) (options : Table) :
    List (String × List String) → Report → World →
      List ((String × String) × FileResult) → Report → World → Prop where
  | done (report : Report) (world : World) :
      ScansRounds host options [] report world [] report world
  | round {folder files rest report world examined applied middle between checked last final}
      (scans : Scans (Options.selects options) (check host options folder)
        (Options.stopsEarly options) files report world examined applied middle between)
      (tail : ScansRounds host options rest middle between checked last final) :
      ScansRounds host options ((folder, files) :: rest) report world
        (applied.map (Prod.map (Prod.mk folder) id) ++ checked) last final

section Rounds

variable {host : Host} {options : Table} {rounds : List (String × List String)}
  {report last : Report} {world final : World} {checked : List ((String × String) × FileResult)}

/-- One round of the analyzer, which comes to its end. -/
theorem scanRounds_round {folder : String} {files examined : List String}
    {applied : List (String × FileResult)} {middle : Report} {between : World}
    (scans : Scans (Options.selects options) (check host options folder)
      (Options.stopsEarly options) files report world examined applied middle between) :
    (Checker.scanRounds host ⟨.analyzer, options, report⟩ ((folder, files) :: rounds)).run world =
      (Checker.scanRounds host ⟨.analyzer, options, middle⟩ rounds).run between := by
  have first : (Checker.scan host ⟨.analyzer, options, report⟩ folder files).run world =
      ((⟨.analyzer, options, middle⟩, .ok ()), between) :=
    Checker.scan_run scans.run
  rw [Checker.scanRounds, StateT.run_bind, first]
  rfl

/-- Rounds that come to their end have a derivation. -/
theorem scansRounds_of_run {checker : Checker}
    (ran : (Checker.scanRounds host ⟨.analyzer, options, report⟩ rounds).run world =
      ((checker, .ok ()), final)) :
    ∃ checked last, checker = ⟨.analyzer, options, last⟩ ∧
      ScansRounds host options rounds report world checked last final := by
  induction rounds generalizing report world with
  | nil =>
    cases ran
    exact ⟨[], report, rfl, .done _ _⟩
  | cons first rest inductionHypothesis =>
    obtain ⟨folder, files⟩ := first
    rcases scanned : (LintReview.scan (Options.selects options) (check host options folder)
      (Options.stopsEarly options) files report).run world with ⟨⟨middle, ending⟩, between⟩
    cases ending with
    | error cause =>
      have failed : (Checker.scan host ⟨.analyzer, options, report⟩ folder files).run world =
          ((⟨.analyzer, options, middle⟩, .error cause), between) :=
        Checker.scan_run scanned
      rw [Checker.scanRounds, StateT.run_bind, failed] at ran
      cases ran
    | ok =>
      obtain ⟨examined, applied, scans⟩ := scans_of_run scanned
      rw [scanRounds_round scans] at ran
      obtain ⟨checked, last, same, tail⟩ := inductionHypothesis ran
      exact ⟨_, last, same, .round scans tail⟩

/-- A derivation is carried out by the rounds. -/
theorem ScansRounds.run (scans : ScansRounds host options rounds report world checked last final) :
    (Checker.scanRounds host ⟨.analyzer, options, report⟩ rounds).run world =
      ((⟨.analyzer, options, last⟩, .ok ()), final) := by
  induction scans with
  | done report world => rfl
  | round scans tail inductionHypothesis => rw [scanRounds_round scans, inductionHypothesis]

/-- Rounds that follow one another are carried out one part after the other. -/
theorem ScansRounds.split {first second : List (String × List String)}
    (scans : ScansRounds host options (first ++ second) report world checked last final) :
    ∃ before middle between after, checked = before ++ after ∧
      ScansRounds host options first report world before middle between ∧
      ScansRounds host options second middle between after last final := by
  induction first generalizing report world checked with
  | nil => exact ⟨[], report, world, checked, rfl, .done _ _, scans⟩
  | cons round rest inductionHypothesis =>
    cases scans with
    | round scans tail =>
      obtain ⟨before, middle, between, after, rfl, begun, ended⟩ := inductionHypothesis tail
      exact ⟨_, middle, between, after, (List.append_assoc _ _ _).symm, .round scans begun, ended⟩

/-- The report that rounds start with changes nothing but the report that they leave. -/
theorem ScansRounds.restarted (other : Report)
    (scans : ScansRounds host options rounds report world checked last final) :
    ∃ left, ScansRounds host options rounds other world checked left final := by
  induction scans generalizing other with
  | done report world => exact ⟨other, .done _ _⟩
  | round scans tail inductionHypothesis =>
    obtain ⟨middle, again⟩ := scans.restarted other
    obtain ⟨left, others⟩ := inductionHypothesis middle
    exact ⟨left, .round again others⟩

/-- The results of the report after rounds over new files, no file twice, are those before and
    those of the rounds, in some order. -/
theorem ScansRounds.results_perm (distinct : (rounds.flatMap Prod.snd).Nodup)
    (new : ∀ file ∈ rounds.flatMap Prod.snd, ¬ report.Knows file)
    (scans : ScansRounds host options rounds report world checked last final) :
    last.results.Perm (report.results ++ checked.map Prod.snd) := by
  induction scans with
  | done report world => simp
  | @round folder files rest report _ _ applied middle _ checked _ _ scans tail
      inductionHypothesis =>
    rw [List.flatMap_cons] at distinct new
    obtain ⟨unrepeated, distinctLater, apart⟩ := List.nodup_append.mp distinct
    have newLater : ∀ file ∈ rest.flatMap Prod.snd, ¬ middle.Knows file := by
      intro file member known
      rcases scans.knows known with before | inside
      · exact new file (List.mem_append_right _ member) before
      · exact apart file inside file member rfl
    have round := scans.results_perm unrepeated fun file member =>
      new file (List.mem_append_left _ member)
    have later := inductionHypothesis distinctLater newLater
    have values : (applied.map (Prod.map (Prod.mk folder) id)).map Prod.snd =
        applied.map Prod.snd := by
      rw [List.map_map]
      rfl
    rw [List.map_append, values, ← List.append_assoc]
    exact later.trans (round.append_right _)

/-- The files of rounds that are selected, each with its folder. -/
def selectedFiles (options : Table) (rounds : List (String × List String)) :
    List (String × String) :=
  (placedFiles rounds).filter fun placed => isSelected (Options.selects options) placed.2

theorem selectedFiles_cons (folder : String) (files : List String)
    (rest : List (String × List String)) :
    selectedFiles options ((folder, files) :: rest) =
      (files.filter (isSelected (Options.selects options))).map (Prod.mk folder) ++
        selectedFiles options rest := by
  rw [selectedFiles, placedFiles_cons, List.filter_append, List.filter_map]
  rfl

/-- The files that are checked in a round, with their folder. -/
theorem placed_applied (folder : String) (applied : List (String × FileResult)) :
    (applied.map (Prod.map (Prod.mk folder) id)).map Prod.fst =
      (applied.map Prod.fst).map (Prod.mk folder) := by
  simp only [List.map_map]
  rfl

/-- Only selected files are checked, once each and in their order. -/
theorem ScansRounds.files_sublist
    (scans : ScansRounds host options rounds report world checked last final) :
    (checked.map Prod.fst).Sublist (selectedFiles options rounds) := by
  induction scans with
  | done report world => exact List.nil_sublist _
  | round scans tail inductionHypothesis =>
    rw [List.map_append, placed_applied, scans.applied_files, selectedFiles_cons]
    exact ((scans.examined_prefix.sublist.filter _).map _).append inductionHypothesis

/-- All selected files are checked, unless a scan is to stop early. -/
theorem ScansRounds.files_eq (late : Options.stopsEarly options = false)
    (distinct : (rounds.flatMap Prod.snd).Nodup)
    (scans : ScansRounds host options rounds report world checked last final) :
    checked.map Prod.fst = selectedFiles options rounds := by
  induction scans with
  | done report world => rfl
  | round scans tail inductionHypothesis =>
    rw [List.flatMap_cons] at distinct
    obtain ⟨unrepeated, distinctLater, -⟩ := List.nodup_append.mp distinct
    rw [List.map_append, placed_applied, scans.applied_files, scans.examined_all unrepeated late,
      selectedFiles_cons, inductionHypothesis distinctLater]

/-- Every result was given by the check of its file, in some world. -/
theorem ScansRounds.found
    (scans : ScansRounds host options rounds report world checked last final) :
    ∀ entry ∈ checked, ∃ before : World,
      ((check host options entry.1.1 entry.1.2).run.run before).1 = .ok entry.2 := by
  induction scans with
  | done report world => simp
  | round scans tail inductionHypothesis =>
    rw [List.forall_mem_append, List.forall_mem_map]
    exact ⟨scans.found, inductionHypothesis⟩

end Rounds

/-! ## Runs and what they count -/

/-- A run of the analyzer: its launch, what it gave, and what it counts on its error output. -/
structure CountedRun where
  request : Launch
  result : CommandResult
  counts : Statistics

/-- Runs one after the other: what each gave is what its launch was answered with, after the
    given effects and the launches before it. -/
inductive RunsAfter (host : Host) : List Effect → List CountedRun → Prop where
  | none (before : List Effect) : RunsAfter host before []
  | run {before : List Effect} {run : CountedRun} {rest : List CountedRun}
      (answered : CommandResult.ofOutcome run.request (host.outcome before run.request) =
        .ok run.result)
      (counted : Statistics.ofErrorOutput run.result.errorOutput = .ok run.counts)
      (later : RunsAfter host (before ++ [.launch run.request]) rest) :
      RunsAfter host before (run :: rest)

/-- The effects of runs are their launches. -/
def launchesOfRuns (runs : List CountedRun) : List Effect :=
  runs.map fun run => .launch run.request

theorem RunsAfter.append {host : Host} {before : List Effect} {runs others : List CountedRun}
    (first : RunsAfter host before runs)
    (second : RunsAfter host (before ++ launchesOfRuns runs) others) :
    RunsAfter host before (runs ++ others) := by
  induction first with
  | none before => simpa [launchesOfRuns] using second
  | run answered counted later inductionHypothesis =>
    exact .run answered counted (inductionHypothesis (by simpa [launchesOfRuns] using second))

/-- Runs account for the files that are checked between two worlds: there is one for each
    file, and nothing else is done. -/
structure Accounts (host : Host) (options : Table) (world final : World)
    (checked : List ((String × String) × FileResult)) (runs : List CountedRun) : Prop where
  requests_eq : runs.map CountedRun.request = checked.map (requestFor options ∘ Prod.fst)
  ran : RunsAfter host world.effects runs
  effects_eq : final.effects = world.effects ++ launchesOfRuns runs
  counts_eq : checked.map (fun entry => entry.2.statistics) = runs.map (some ∘ CountedRun.counts)

section Accounts

variable {host : Host} {options : Table} {world middle final : World}
  {checked others : List ((String × String) × FileResult)} {runs more : List CountedRun}

theorem Accounts.nothing : Accounts host options world world [] [] :=
  ⟨rfl, .none _, (List.append_nil _).symm, rfl⟩

theorem Accounts.append (first : Accounts host options world middle checked runs)
    (second : Accounts host options middle final others more) :
    Accounts host options world final (checked ++ others) (runs ++ more) := by
  refine ⟨?_, ?_, ?_, ?_⟩
  · rw [List.map_append, List.map_append, first.requests_eq, second.requests_eq]
  · exact first.ran.append (first.effects_eq ▸ second.ran)
  · rw [second.effects_eq, first.effects_eq, launchesOfRuns, launchesOfRuns, launchesOfRuns,
      List.map_append, List.append_assoc]
  · rw [List.map_append, List.map_append, first.counts_eq, second.counts_eq]

/-- A result keeps what is counted on the error output of its run. -/
theorem resultOf_counts {file : String} {run : CommandResult} {result : FileResult}
    (made : resultOf file run = .ok result) :
    ∃ counts, Statistics.ofErrorOutput run.errorOutput = .ok counts ∧
      result.statistics = some counts := by
  unfold resultOf at made
  cases read : Diagnostic.ofOutput run.output with
  | error cause =>
    rw [read] at made
    cases made
  | ok diagnostics =>
    cases counted : Statistics.ofErrorOutput run.errorOutput with
    | error cause =>
      rw [read, counted] at made
      cases made
    | ok counts =>
      rw [read, counted] at made
      cases made
      exact ⟨counts, rfl, rfl⟩

/-- A check that gives a result is accounted for by one run. -/
theorem accounts_of_check {folder file : String} {result : FileResult}
    (found : (check host options folder file).run.run world = (.ok result, final)) :
    ∃ run, Accounts host options world final [((folder, file), result)] [run] := by
  cases named : Options.program options usualProgram with
  | error cause =>
    rw [check, named] at found
    cases found
  | ok program =>
    rw [check_run named] at found
    obtain ⟨given, rfl⟩ := Prod.mk.inj found
    cases answered : CommandResult.ofOutcome (request options folder file)
        (host.outcome world.effects (request options folder file)) with
    | error cause =>
      rw [answered] at given
      cases given
    | ok run =>
      rw [answered] at given
      change (resultOf file run).mapError Failure.number = _ at given
      cases made : resultOf file run with
      | error cause =>
        rw [made] at given
        cases given
      | ok other =>
        rw [made] at given
        obtain rfl : other = result := Except.ok.inj given
        obtain ⟨counts, counted, kept⟩ := resultOf_counts made
        refine ⟨⟨request options folder file, run, counts⟩, rfl, .run answered counted (.none _),
          rfl, ?_⟩
        rw [List.map_singleton, kept]
        rfl

/-- A scan is accounted for by runs for the files that it checks. -/
theorem accounts_of_scan {folder : String} {stopsEarly : Bool} {files examined : List String}
    {applied : List (String × FileResult)} {report last : Report}
    (scans : Scans (Options.selects options) (check host options folder) stopsEarly files report
      world examined applied last final) :
    ∃ runs, Accounts host options world final (applied.map (Prod.map (Prod.mk folder) id))
      runs := by
  induction scans with
  | done report world => exact ⟨[], .nothing⟩
  | ignored unselected tail inductionHypothesis => exact inductionHypothesis
  | checked selected found goesOn tail inductionHypothesis =>
    obtain ⟨run, only⟩ := accounts_of_check found
    obtain ⟨runs, later⟩ := inductionHypothesis
    exact ⟨_, only.append later⟩
  | stopped selected found failed early =>
    obtain ⟨run, only⟩ := accounts_of_check found
    exact ⟨_, only⟩

/-- Rounds are accounted for by runs for the files that they check. -/
theorem accounts_of_rounds {rounds : List (String × List String)} {report last : Report}
    (scans : ScansRounds host options rounds report world checked last final) :
    ∃ runs, Accounts host options world final checked runs := by
  induction scans with
  | done report world => exact ⟨[], .nothing⟩
  | round scans tail inductionHypothesis =>
    obtain ⟨runs, first⟩ := accounts_of_scan scans
    obtain ⟨more, later⟩ := inductionHypothesis
    exact ⟨_, first.append later⟩

end Accounts

/-! ## Totals -/

/-- Adding up from the left adds up each counter. -/
theorem get_foldl_add (counts : List Statistics) (start : Statistics) (counter : Counter) :
    (counts.foldl Statistics.add start).get counter =
      start.get counter + (counts.map fun count => count.get counter).sum := by
  induction counts generalizing start with
  | nil => simp
  | cons first rest inductionHypothesis =>
    rw [List.foldl_cons, inductionHypothesis, Statistics.get_add, List.map_cons, List.sum_cons,
      add_assoc]

/-- Each counter of the totals is the sum over the results. -/
theorem get_totalStatistics (report : Report) (counter : Counter) :
    (totalStatistics report).get counter =
      ((report.results.filterMap FileResult.statistics).map fun count =>
        count.get counter).sum := by
  have none : ({} : Statistics).get counter = 0 := by
    cases counter <;> rfl
  rw [totalStatistics, get_foldl_add, none, zero_add]

/-- The order of the results does not matter for the totals. -/
theorem totalStatistics_perm {report other : Report}
    (same : report.results.Perm other.results) :
    totalStatistics report = totalStatistics other := by
  apply Statistics.ext_get
  intro counter
  rw [get_totalStatistics, get_totalStatistics]
  exact ((same.filterMap _).map _).sum_eq

section Totals

variable {host : Host} {options : Table} {rounds others : List (String × List String)}
  {report last : Report} {world final : World} {checked : List ((String × String) × FileResult)}

/-- The results of rounds over distinct files that start with an empty report. -/
theorem ScansRounds.results_fresh (distinct : (rounds.flatMap Prod.snd).Nodup)
    (scans : ScansRounds host options rounds .empty world checked last final) :
    last.results.Perm (checked.map Prod.snd) := by
  apply scans.results_perm distinct
  intro file _ known
  simp [Report.Knows, Report.empty] at known

/-- The totals are the sums over the runs. -/
theorem Accounts.get_total {runs : List CountedRun}
    (accounts : Accounts host options world final checked runs)
    (results : last.results.Perm (checked.map Prod.snd)) (counter : Counter) :
    (totalStatistics last).get counter = (runs.map fun run => run.counts.get counter).sum := by
  have counts : (checked.map Prod.snd).filterMap FileResult.statistics =
      runs.map CountedRun.counts := by
    calc (checked.map Prod.snd).filterMap FileResult.statistics
        = (checked.map fun entry => entry.2.statistics).filterMap id := by
          rw [List.filterMap_map, List.filterMap_map]
          rfl
      _ = (runs.map (some ∘ CountedRun.counts)).filterMap id := by rw [accounts.counts_eq]
      _ = runs.map CountedRun.counts := by
          rw [List.filterMap_map, ← List.filterMap_eq_map]
          rfl
  rw [get_totalStatistics, ((results.filterMap _).map _).sum_eq, counts, List.map_map]
  rfl

/-- The result for a file, where it does not depend on what was done before. -/
def judged (host : Host) (options : Table) (placed : String × String) :
    Option ((String × String) × FileResult) :=
  (verdict (host.outcome []) options placed.1 placed.2).toOption.map (Prod.mk placed)

/-- What becomes of the launches for files does not depend on what was done before. -/
def Steady (host : Host) (options : Table) (files : List (String × String)) : Prop :=
  ∀ placed ∈ files, ∀ before,
    host.outcome before (requestFor options placed) = host.outcome [] (requestFor options placed)

/-- The results of steady runs are known from the files. -/
theorem ScansRounds.checked_eq (steady : Steady host options (selectedFiles options rounds))
    (scans : ScansRounds host options rounds report world checked last final) :
    checked = (checked.map Prod.fst).filterMap (judged host options) := by
  have each : ∀ entry ∈ checked, judged host options entry.1 = some entry := by
    intro entry member
    obtain ⟨before, given⟩ := scans.found entry member
    have selected := scans.files_sublist.subset (List.mem_map_of_mem member)
    rw [check_answered (steady entry.1 selected before.effects)] at given
    simp [judged, given, Except.toOption]
  rw [List.filterMap_map]
  symm
  calc checked.filterMap (judged host options ∘ Prod.fst) = checked.filterMap some :=
        List.filterMap_congr each
    _ = checked := List.filterMap_some

/-- Of every file in rounds that do not stop early, it is known whether it is selected. -/
theorem ScansRounds.selects_eq (late : Options.stopsEarly options = false)
    (distinct : (rounds.flatMap Prod.snd).Nodup)
    (scans : ScansRounds host options rounds report world checked last final) :
    ∀ placed ∈ placedFiles rounds, Options.selects options placed.2 =
      .ok (isSelected (Options.selects options) placed.2) := by
  induction scans with
  | done report world => exact List.forall_mem_nil _
  | round scans tail inductionHypothesis =>
    rw [List.flatMap_cons] at distinct
    obtain ⟨unrepeated, distinctLater, -⟩ := List.nodup_append.mp distinct
    have known := scans.selects_eq
    rw [scans.examined_all unrepeated late] at known
    rw [placedFiles_cons, List.forall_mem_append, List.forall_mem_map]
    exact ⟨known, inductionHypothesis distinctLater⟩

/-- Rounds over the same files, however ordered and split, come to their end too if the runs are
    steady and no scan is to stop early. -/
theorem ScansRounds.rearranged (late : Options.stopsEarly options = false)
    (distinct : (rounds.flatMap Prod.snd).Nodup)
    (steady : Steady host options (selectedFiles options rounds))
    (scans : ScansRounds host options rounds report world checked last final)
    (same : ∀ placed ∈ placedFiles others, placed ∈ placedFiles rounds)
    (other : Report) (start : World) :
    ∃ again left stop, ScansRounds host options others other start again left stop := by
  induction others generalizing other start with
  | nil => exact ⟨[], other, start, .done _ _⟩
  | cons round rest inductionHypothesis =>
    obtain ⟨folder, files⟩ := round
    rw [placedFiles_cons, List.forall_mem_append, List.forall_mem_map] at same
    obtain ⟨inside, insideLater⟩ := same
    -- each file was checked in the rounds, and its verdict is the same wherever it is checked
    have checks : ∀ file ∈ files, isSelected (Options.selects options) file = true →
        ∀ state, ∃ result, ((check host options folder file).run.run state).1 = .ok result := by
      intro file member selected state
      have wanted : (folder, file) ∈ selectedFiles options rounds :=
        List.mem_filter.mpr ⟨inside file member, selected⟩
      obtain ⟨entry, found, named⟩ : ∃ entry ∈ checked, entry.1 = (folder, file) := by
        simpa [← scans.files_eq late distinct] using wanted
      obtain ⟨before, given⟩ := scans.found entry found
      rw [named] at given
      have settled := check_answered (steady _ wanted before.effects)
      have settledToo := check_answered (steady _ wanted state.effects)
      exact ⟨entry.2, by rw [settledToo, ← settled, given]⟩
    have known : ∀ file ∈ files, Options.selects options file =
        .ok (isSelected (Options.selects options) file) := fun file member =>
      scans.selects_eq late distinct (folder, file) (inside file member)
    obtain ⟨examined, applied, middle, between, scan⟩ :=
      exists_scans (Options.stopsEarly options) known checks other start
    obtain ⟨again, left, stop, later⟩ := inductionHypothesis insideLater middle between
    exact ⟨_, left, stop, .round scan later⟩

end Totals

/-- The account of rounds of the analyzer from one world to another: the files that it ran on,
    its runs, and the totals in which each run is counted once. -/
structure Account (host : Host) (options : Table) (rounds : List (String × List String))
    (world final : World) (total : Statistics) (files : List (String × String))
    (runs : List CountedRun) : Prop where
  /-- The files are selected ones, each taken once. -/
  files_sublist : files.Sublist (selectedFiles options rounds)
  /-- They are all of them, unless a scan is to stop early. -/
  files_all : Options.stopsEarly options = false → files = selectedFiles options rounds
  /-- There is one run for each file. -/
  requests_eq : runs.map CountedRun.request = files.map (requestFor options)
  ran : RunsAfter host world.effects runs
  /-- Nothing is done but the runs. -/
  effects_eq : final.effects = world.effects ++ launchesOfRuns runs
  total_eq : ∀ counter, total.get counter = (runs.map fun run => run.counts.get counter).sum

/-- The totals of the analyzer after rounds of scans over distinct files that all come to their
    end. They are, counter by counter, the sum over all runs, of files that passed and of files
    that failed. The totals of rounds that follow one another are those of both parts, each with
    a report of its own. If no scan is to stop early and the runs are steady, the same files in
    another order or split into other rounds give the same totals. -/
theorem totals_of_rounds (host : Host) (options : Table) :
    (∀ rounds world checker final, (rounds.flatMap Prod.snd).Nodup →
      (Checker.scanRounds host (.new .analyzer options) rounds).run world =
        ((checker, .ok ()), final) →
      ∃ files runs, Account host options rounds world final (totalStatistics checker.report)
        files runs) ∧
    (∀ first second world both final, ((first ++ second).flatMap Prod.snd).Nodup →
      (Checker.scanRounds host (.new .analyzer options) (first ++ second)).run world =
        ((both, .ok ()), final) →
      ∃ one middle two,
        (Checker.scanRounds host (.new .analyzer options) first).run world =
          ((one, .ok ()), middle) ∧
        (Checker.scanRounds host (.new .analyzer options) second).run middle =
          ((two, .ok ()), final) ∧
        totalStatistics both.report =
          (totalStatistics one.report).add (totalStatistics two.report)) ∧
    ∀ rounds others world start checker final, (rounds.flatMap Prod.snd).Nodup →
      Options.stopsEarly options = false → (placedFiles others).Perm (placedFiles rounds) →
      Steady host options (selectedFiles options rounds) →
      (Checker.scanRounds host (.new .analyzer options) rounds).run world =
        ((checker, .ok ()), final) →
      ∃ other last,
        (Checker.scanRounds host (.new .analyzer options) others).run start =
          ((other, .ok ()), last) ∧
        totalStatistics other.report = totalStatistics checker.report := by
  refine ⟨?_, ?_, ?_⟩
  · intro rounds world checker final distinct ran
    obtain ⟨checked, last, rfl, scans⟩ := scansRounds_of_run ran
    obtain ⟨runs, accounts⟩ := accounts_of_rounds scans
    refine ⟨checked.map Prod.fst, runs, scans.files_sublist,
      fun late => scans.files_eq late distinct, ?_, accounts.ran, accounts.effects_eq,
      accounts.get_total (scans.results_fresh distinct)⟩
    rw [accounts.requests_eq, List.map_map]
  · intro first second world both final distinct ran
    obtain ⟨checked, last, rfl, scans⟩ := scansRounds_of_run ran
    obtain ⟨before, middle, between, after, rfl, begun, ended⟩ := scans.split
    -- the second part launches and finds the same if it starts with an empty report
    obtain ⟨left, anew⟩ := ended.restarted .empty
    refine ⟨_, between, _, begun.run, anew.run, ?_⟩
    have results := scans.results_fresh distinct
    rw [List.flatMap_append] at distinct
    obtain ⟨distinctFirst, distinctSecond, -⟩ := List.nodup_append.mp distinct
    obtain ⟨runs, one⟩ := accounts_of_rounds begun
    obtain ⟨more, two⟩ := accounts_of_rounds anew
    apply Statistics.ext_get
    intro counter
    rw [Statistics.get_add, (one.append two).get_total results,
      one.get_total (begun.results_fresh distinctFirst),
      two.get_total (anew.results_fresh distinctSecond), List.map_append, List.sum_append]
  · intro rounds others world start checker final distinct late same steady ran
    obtain ⟨checked, last, rfl, scans⟩ := scansRounds_of_run ran
    obtain ⟨again, left, stop, rearranged⟩ := scans.rearranged late distinct steady
      (fun _ member => same.subset member) .empty start
    refine ⟨_, stop, rearranged.run, totalStatistics_perm ?_⟩
    have distinctToo : (others.flatMap Prod.snd).Nodup := by
      rw [← snd_placedFiles] at distinct ⊢
      exact (same.map Prod.snd).nodup_iff.mpr distinct
    have selected : (selectedFiles options others).Perm (selectedFiles options rounds) :=
      same.filter _
    have steadyToo : Steady host options (selectedFiles options others) :=
      fun placed member => steady placed (selected.subset member)
    have results : again.Perm checked := by
      rw [rearranged.checked_eq steadyToo, scans.checked_eq steady,
        rearranged.files_eq late distinctToo, scans.files_eq late distinct]
      exact selected.filterMap _
    exact (rearranged.results_fresh distinctToo).trans
      ((results.map Prod.snd).trans (scans.results_fresh distinct).symm)

/-- Surroundings in which the analyzer counts a warning in one file and fails on all others. -/
def countingHost : Host where
  outcome _ launch :=
    if launch.arguments = ["a.cpp"] then
      .finished 0 [] (Text.encode "1 warning generated.\n".toList)
    else .finished 1 [] (Text.encode "2 warnings and 1 error generated.\n".toList)
  openError _ _ := none
  difference _ _ _ := .ok ""
  refusal _ _ := none
  login := "bot"

/-- A round with one file. -/
def firstRound : List (String × List String) := [("/one", ["a.cpp"])]

/-- A round with another file. -/
def secondRound : List (String × List String) := [("/two", ["b.cpp"])]

/-- A world in which nothing was done. -/
def untouched : World := ⟨⟨[]⟩, [], 1, "", []⟩

/-- The totals of two rounds are the sums over a file that passed and one that failed. Each
    round counts its own, and in the other order they count the same. -/
theorem totals_of_two_rounds :
    ((firstRound ++ secondRound).flatMap Prod.snd).Nodup ∧ Options.stopsEarly [] = false ∧
    (placedFiles (secondRound ++ firstRound)).Perm (placedFiles (firstRound ++ secondRound)) ∧
    Steady countingHost [] (selectedFiles [] (firstRound ++ secondRound)) ∧
    ∃ checker final,
      (Checker.scanRounds countingHost (.new .analyzer []) (firstRound ++ secondRound)).run
        untouched = ((checker, .ok ()), final) ∧
      totalStatistics checker.report = { warnings := 3, errors := 1 } ∧
      (∃ files runs, Account countingHost [] (firstRound ++ secondRound) untouched final
        (totalStatistics checker.report) files runs) ∧
      (∃ one middle two,
        (Checker.scanRounds countingHost (.new .analyzer []) firstRound).run untouched =
          ((one, .ok ()), middle) ∧
        (Checker.scanRounds countingHost (.new .analyzer []) secondRound).run middle =
          ((two, .ok ()), final) ∧
        totalStatistics checker.report =
          (totalStatistics one.report).add (totalStatistics two.report)) ∧
      ∃ other last,
        (Checker.scanRounds countingHost (.new .analyzer []) (secondRound ++ firstRound)).run
          untouched = ((other, .ok ()), last) ∧
        totalStatistics other.report = totalStatistics checker.report := by
  have distinct : ((firstRound ++ secondRound).flatMap Prod.snd).Nodup := by decide
  have late : Options.stopsEarly [] = false := rfl
  have same : (placedFiles (secondRound ++ firstRound)).Perm
      (placedFiles (firstRound ++ secondRound)) := .swap _ _ _
  have steady : Steady countingHost [] (selectedFiles [] (firstRound ++ secondRound)) :=
    fun _ _ _ => rfl
  have fine : ((Checker.scanRounds countingHost (.new .analyzer [])
      (firstRound ++ secondRound)).run untouched).1.2.isOk = true := by decide +kernel
  have total : totalStatistics ((Checker.scanRounds countingHost (.new .analyzer [])
      (firstRound ++ secondRound)).run untouched).1.1.report = { warnings := 3, errors := 1 } := by
    decide +kernel
  rcases ran : (Checker.scanRounds countingHost (.new .analyzer [])
    (firstRound ++ secondRound)).run untouched with ⟨⟨checker, ending⟩, final⟩
  rw [ran] at fine total
  cases ending with
  | error cause => cases fine
  | ok =>
    obtain ⟨summed, added, rearranged⟩ := totals_of_rounds countingHost []
    exact ⟨distinct, late, same, steady, checker, final, rfl, total,
      summed _ _ _ _ distinct ran, added _ _ _ _ _ distinct ran,
      rearranged _ _ _ _ _ _ distinct late same steady ran⟩

end Analyzer
end LintReview
