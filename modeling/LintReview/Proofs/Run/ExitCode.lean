import LintReview.Proofs.Checker.AnalyzerVerdict
import LintReview.Proofs.Checker.ScanVerdict
import LintReview.Proofs.Run.Course

/-!
# What the exit code of a run depends on

The exit code of a run that comes to its end is 1 exactly if the analyzer takes part and
objects to one of the files that it selects. It does not depend on the formatter, on whether a
scan stops early or on what is posted where. If it is settled whether the analyzer stops early,
the same holds of its whole report.
-/

namespace LintReview

/-- All that a run begins with. -/
structure Run.Beginning where
  host : Host
  context : Context
  config : Table
  given : Option Diff.Change
  pullAtHand : Bool
  world : World

/-- The run that is begun comes to its end. -/
def Run.Beginning.Returns (beginning : Beginning) (run : Run) : Prop :=
  ∃ final, (Run.start beginning.host beginning.context beginning.config beginning.given
    beginning.pullAtHand).run.run beginning.world = (.ok run, final)

/-- The reports of the analyzer: one if it took part, otherwise none. -/
def Run.analyzerReports (run : Run) : List Report :=
  (run.checkers.filter fun checker => checker.kind = .analyzer).map Checker.report

namespace Run

/-- The exit code is 1 exactly if the analyzer reports a file that failed. -/
theorem exitCode_eq_one_iff (run : Run) :
    run.exitCode = 1 ↔ ∃ report ∈ run.analyzerReports, report.failed ≠ [] := by
  have passed : Summary.runPassed run.checkers = false ↔
      ∃ checker ∈ run.checkers, checker.kind = .analyzer ∧ checker.report.failed ≠ [] := by
    simp [Summary.runPassed, Report.brief]
  have reported : (∃ report ∈ run.analyzerReports, report.failed ≠ []) ↔
      ∃ checker ∈ run.checkers, checker.kind = .analyzer ∧ checker.report.failed ≠ [] := by
    simp [analyzerReports, and_assoc]
  rw [reported, ← passed]
  unfold exitCode Summary.exitCode
  cases Summary.runPassed run.checkers <;> simp

/-- An exit code that is not 1 is 0. -/
theorem exitCode_eq_zero {run : Run} (other : run.exitCode ≠ 1) : run.exitCode = 0 := by
  unfold exitCode Summary.exitCode at *
  split <;> simp_all

/-- Two runs whose exit codes are 1 under the same circumstances have the same exit code. -/
theorem exitCode_congr {first second : Run} (same : first.exitCode = 1 ↔ second.exitCode = 1) :
    first.exitCode = second.exitCode := by
  by_cases failed : first.exitCode = 1
  · rw [failed, same.mp failed]
  · have alsoPassed : second.exitCode ≠ 1 := fun fails => failed (same.mpr fails)
    rw [exitCode_eq_zero failed, exitCode_eq_zero alsoPassed]

/-- The analyzers among checkers do not depend on what they have reported. -/
theorem filter_renewed (checkers : List Checker) :
    (checkers.filter fun checker => checker.kind = .analyzer).map Checker.renewed =
      (checkers.map Checker.renewed).filter fun checker => checker.kind = .analyzer := by
  rw [List.filter_map]
  rfl

/-- What a run that has come to its end reports of the analyzer: the report of a scan of its
    files if the analyzer took part, and nothing otherwise. -/
theorem Beginning.Returns.analyzerReports {beginning : Beginning} {run : Run}
    (returns : beginning.Returns run) :
    ∃ options, sectionOf beginning.config Config.analyzerSection = .ok options ∧
      (isEnabled options = false → run.analyzerReports = []) ∧
      (isEnabled options = true → ∃ report before after, run.analyzerReports = [report] ∧
        (scan (Options.selects options)
          (Analyzer.check beginning.host options beginning.context.repoPath)
          (Options.stopsEarly options) run.files .empty).run before =
            ((report, .ok ()), after)) := by
  obtain ⟨final, ran⟩ := returns
  obtain ⟨change, loaded, enabled, checkers, examined, loading, known, examining, finishing⟩ :=
    start_eq_ok ran
  obtain ⟨files, rfl, -⟩ := finish_eq_ok finishing
  obtain ⟨same, scanned⟩ := examine_scanned (checkersOf_fresh known) examining
  obtain ⟨formatting, options, -, given, rfl⟩ := checkersOf_eq_ok known
  have analyzers : (run.checkers.filter fun checker => checker.kind = .analyzer).map
      Checker.renewed = if isEnabled options then [.new .analyzer options] else [] := by
    rw [filter_renewed, same]
    cases isEnabled formatting <;> cases isEnabled options <;> simp [Checker.new]
  refine ⟨options, given, ?_, ?_⟩
  · intro disabled
    rw [disabled] at analyzers
    have none := List.map_eq_nil_iff.mp analyzers
    rw [Run.analyzerReports, none, List.map_nil]
  · intro takesPart
    rw [if_pos takesPart] at analyzers
    obtain ⟨checker, only, renewed⟩ := List.map_eq_singleton_iff.mp analyzers
    have member : checker ∈ run.checkers := by
      have inside : checker ∈ run.checkers.filter fun checker => checker.kind = .analyzer := by
        rw [only]
        exact List.mem_singleton_self checker
      exact (List.mem_filter.mp inside).1
    obtain ⟨before, after, scan⟩ := scanned checker member
    obtain ⟨kind, own, report⟩ := checker
    obtain ⟨rfl, rfl, -⟩ := Checker.mk.inj renewed
    refine ⟨report, before, after, ?_, ?_⟩
    · rw [Run.analyzerReports, only, List.map_singleton]
    · rw [files]
      exact scan

/-- The exit code of a run that comes to its end is decided by the analyzer's verdicts. -/
theorem Beginning.Returns.exitCode_eq_one_iff {answer : Launch → Outcome}
    {beginning : Beginning} {run : Run} {options : Table}
    (answers : beginning.host.AnswersBy answer) (returns : beginning.Returns run)
    (given : sectionOf beginning.config Config.analyzerSection = .ok options) :
    run.exitCode = 1 ↔ isEnabled options = true ∧
      ∃ file ∈ run.files, Options.selects options file = .ok true ∧
        Analyzer.Objects answer
          (Analyzer.request options beginning.context.repoPath file) := by
  obtain ⟨known, givenToo, disabled, takesPart⟩ := returns.analyzerReports
  obtain rfl : known = options := Except.ok.inj (givenToo.symm.trans given)
  rw [Run.exitCode_eq_one_iff]
  cases enabled : isEnabled known with
  | false => simp [disabled enabled]
  | true =>
    obtain ⟨report, before, after, only, ran⟩ := takesPart enabled
    obtain ⟨examined, applied, scans⟩ := scans_of_run ran
    have decided : ∀ file before result after,
        (Analyzer.check beginning.host known beginning.context.repoPath file).run.run before =
          (.ok result, after) →
        (result.passed = false ↔ Analyzer.Objects answer
          (Analyzer.request known beginning.context.repoPath file)) := by
      intro file before result after found
      have settled := Analyzer.check_verdict answers known beginning.context.repoPath file before
      rw [found] at settled
      exact Analyzer.verdict_failed_iff settled.symm
    have failed := scans.failed_ne_nil_iff rfl decided
    simp [only, failed]

/-- The exit code depends on the verdicts of the analyzer alone. Let launches be answered by
    what is launched, and let two runs come to their end. The exit code of the first is 1
    exactly if the analyzer takes part and objects to one of the files of the change that it
    selects. If both runs are in the same folder, have the same files, and have options for the
    analyzer that differ at most in whether it stops early, they have the same exit code,
    whatever else they begin with. If it stops early in both or in neither, and the files come
    in the same order, the reports of the analyzer are the same. -/
theorem exitCode_of_verdicts (answer : Launch → Outcome) {first second : Beginning}
    {firstRun secondRun : Run} {options others : Table}
    (firstAnswers : first.host.AnswersBy answer) (secondAnswers : second.host.AnswersBy answer)
    (firstReturns : first.Returns firstRun) (secondReturns : second.Returns secondRun)
    (firstOptions : sectionOf first.config Config.analyzerSection = .ok options)
    (secondOptions : sectionOf second.config Config.analyzerSection = .ok others) :
    (firstRun.exitCode = 1 ↔ isEnabled options = true ∧
      ∃ file ∈ firstRun.files, Options.selects options file = .ok true ∧
        Analyzer.Objects answer (Analyzer.request options first.context.repoPath file)) ∧
    (first.context.repoPath = second.context.repoPath →
      (∀ file, file ∈ firstRun.files ↔ file ∈ secondRun.files) →
      Analyzer.SameButHaste options others →
        firstRun.exitCode = secondRun.exitCode ∧
        (firstRun.files = secondRun.files →
          Options.stopsEarly options = Options.stopsEarly others →
            firstRun.analyzerReports = secondRun.analyzerReports)) := by
  have firstVerdict := firstReturns.exitCode_eq_one_iff firstAnswers firstOptions
  have secondVerdict := secondReturns.exitCode_eq_one_iff secondAnswers secondOptions
  refine ⟨firstVerdict, ?_⟩
  intro sameFolder sameFiles same
  have enabled : isEnabled options = isEnabled others := by
    rw [isEnabled, isEnabled, same "enabled" (by decide)]
  constructor
  · apply exitCode_congr
    rw [firstVerdict, secondVerdict, enabled]
    simp only [sameFolder, sameFiles, same.selects_eq, same.request_eq]
  · intro sameOrder sameHaste
    obtain ⟨known, given, disabled, takesPart⟩ := firstReturns.analyzerReports
    obtain ⟨knownToo, givenToo, disabledToo, takesPartToo⟩ := secondReturns.analyzerReports
    obtain rfl : known = options := Except.ok.inj (given.symm.trans firstOptions)
    obtain rfl : knownToo = others := Except.ok.inj (givenToo.symm.trans secondOptions)
    by_cases on : isEnabled known = true
    · obtain ⟨report, before, after, only, ran⟩ := takesPart on
      obtain ⟨reportToo, beforeToo, afterToo, onlyToo, ranToo⟩ := takesPartToo (enabled ▸ on)
      have agree : ∀ file state other,
          ((Analyzer.check first.host known first.context.repoPath file).run.run state).1 =
            ((Analyzer.check second.host knownToo second.context.repoPath file).run.run
              other).1 := by
        intro file state other
        rw [Analyzer.check_verdict firstAnswers, Analyzer.check_verdict secondAnswers,
          same.verdict_eq, sameFolder]
      have sameScan := scan_agrees (Options.selects known) (Options.stopsEarly known) agree
        firstRun.files .empty before beforeToo
      rw [ran, same.selects_eq, sameHaste, sameOrder, ranToo] at sameScan
      rw [only, onlyToo, (Prod.mk.inj sameScan).1]
    · have off : isEnabled known = false := by simpa using on
      rw [disabled off, disabledToo (enabled ▸ off)]

/-- The small run, as it begins. -/
def smallBeginning : Beginning :=
  ⟨willingHost, smallContext, batchConfig 1, none, false, smallWorld⟩

/-- Options of an analyzer that stops early. -/
def hastyAnalysis : Table := [(.text "fast_exit", .flag true)]

/-- A run on the same file that stops early, posts nothing and is given its change. -/
def hastyBeginning : Beginning where
  host := willingHost
  context := {
    isLocal := true
    target := "main"
    source := "topic"
    repoPath := "/repo"
    eventName := "push" }
  config := [(.text "clang_format", .table [(.text "enabled", .flag false)]),
    (.text "clang_tidy", .table hastyAnalysis)]
  given := some smallChange
  pullAtHand := false
  world := smallWorld

/-- The analyzer of that run after it has examined the file. -/
def hastyAnalyzer : Checker where
  kind := .analyzer
  options := hastyAnalysis
  report := { smallAnalyzer.report with stoppedEarly := true }

/-- That run at its end. -/
def hastyRun : Run := ⟨["a.cpp"], [hastyAnalyzer], [], none⟩

/-- The analyzer of that run examines the file. -/
theorem hastyRun_scans (world : World) :
    ((Checker.new .analyzer hastyAnalysis).scan willingHost "/repo" ["a.cpp"]).run world =
      ((hastyAnalyzer, .ok ()),
        world.record (.launch (Analyzer.request hastyAnalysis "/repo" "a.cpp"))) := by
  rfl

/-- The run that stops early comes to its end. -/
theorem hastyBeginning_returns : hastyBeginning.Returns hastyRun := by
  have given : (changeOf willingHost hastyBeginning.context (some smallChange)).run.run
      smallWorld = (.ok smallChange, smallWorld) := rfl
  have enabled : (liftM (checkersOf hastyBeginning.config false) :
      Session (List Checker)).run.run smallWorld =
        (.ok [.new .analyzer hastyAnalysis], smallWorld) := rfl
  obtain ⟨shown, examined⟩ := examine_alone (by decide) hastyRun_scans smallWorld
  have finished : ∃ final, (finish willingHost hastyBeginning.context hastyBeginning.config false
      smallChange [hastyAnalyzer]).run.run
        { smallWorld with
          console := shown
          effects := [.launch (Analyzer.request hastyAnalysis "/repo" "a.cpp")] } =
        (.ok hastyRun, final) := ⟨_, rfl⟩
  obtain ⟨final, finished⟩ := finished
  refine ⟨final, ?_⟩
  change (start willingHost hastyBeginning.context hastyBeginning.config (some smallChange)
    false).run.run smallWorld = _
  rw [start_eq]
  refine (Session.run_bind_ok given).trans ?_
  refine (Session.run_bind_ok enabled).trans ?_
  exact (Session.run_bind_ok examined).trans finished

/-- The options differ only in whether the analyzer stops early. -/
theorem hastyAnalysis_same : Analyzer.SameButHaste [] hastyAnalysis := by
  intro name other
  simp [Table.get?, Table.find?, hastyAnalysis, Setting.sameKey, Ne.symm other]

/-- The small run and the one that stops early have the same exit code, which is 1. -/
theorem exitCode_of_verdicts_hasty :
    ∃ answer, willingHost.AnswersBy answer ∧
      smallBeginning.Returns smallRun ∧ hastyBeginning.Returns hastyRun ∧
      sectionOf smallBeginning.config Config.analyzerSection = .ok [] ∧
      sectionOf hastyBeginning.config Config.analyzerSection = .ok hastyAnalysis ∧
      Analyzer.SameButHaste [] hastyAnalysis ∧
      (smallRun.exitCode = 1 ↔ isEnabled [] = true ∧
        ∃ file ∈ smallRun.files, Options.selects [] file = .ok true ∧
          Analyzer.Objects answer (Analyzer.request [] "/repo" file)) ∧
      smallRun.exitCode = 1 ∧ smallRun.exitCode = hastyRun.exitCode := by
  let answer : Launch → Outcome := willingHost.outcome []
  have answers : willingHost.AnswersBy answer := fun _ _ => rfl
  have smallReturns : smallBeginning.Returns smallRun :=
    smallRun_ends (by decide : (1 : Int) ≠ 0)
  have both := exitCode_of_verdicts answer answers answers smallReturns hastyBeginning_returns
    rfl rfl
  have same := both.2 rfl (fun _ => Iff.rfl) hastyAnalysis_same
  exact ⟨answer, answers, smallReturns, hastyBeginning_returns, rfl, rfl, hastyAnalysis_same,
    both.1, rfl, same.1⟩

end Run

end LintReview
