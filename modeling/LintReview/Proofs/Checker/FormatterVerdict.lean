import LintReview.Proofs.Checker.FormatterRun
import LintReview.Proofs.Checker.LongNumbers
import LintReview.Proofs.Replacement.Reports

/-!
# The verdict of the formatter

Checking a file takes one of four ways (`Formatter.Checks`): the first run ends badly, its report
is refused, its report is accepted and no text is wanted, or the text is wanted and a second run is
made for it. So the verdict and all of the result can be told from what the runs came to
(`Formatter.verdict_of_runs`): a file passes only if its report is accepted and lists no change, and
no run has ended badly.
-/

namespace LintReview

/-- A report is accepted: it is a document, its outermost element lists changes, and each item of
    the list gives one. -/
structure Replacement.Accepts (report : String) (root : Markup.Element)
    (changes : List Replacement) : Prop where
  document : Markup.read report.toList = .ok root
  lists : root.name = listName
  gives : List.Forall₂ Gives (items root) changes

/-- Changes are read from a report exactly if it is accepted. -/
theorem Replacement.ofReport_eq_ok_iff {report : String} {changes : List Replacement} :
    ofReport report = .ok changes ↔ ∃ root, Accepts report root changes := by
  rw [ofReport_ok_iff]
  exact exists_congr fun root =>
    ⟨fun ⟨read, named, given⟩ => ⟨read, named, given⟩, fun known => ⟨known.1, known.2, known.3⟩⟩

/-- A report that is refused is not accepted. -/
theorem Replacement.not_accepts_of_error {report : String} {problem : Error}
    (refuses : ofReport report = .error problem) (root : Markup.Element)
    (changes : List Replacement) : ¬ Accepts report root changes := by
  intro accepted
  cases refuses.symm.trans (ofReport_eq_ok_iff.mpr ⟨root, accepted⟩)

/-- A report from which changes are read lists nothing exactly if there are none. -/
theorem Replacement.lists_nothing_iff {report : String} {changes : List Replacement}
    (accepts : ofReport report = .ok changes) :
    (∃ root others, Accepts report root others ∧ items root = []) ↔ changes = [] := by
  have length {root : Markup.Element} {others : List Replacement}
      (accepted : Accepts report root others) : items root = [] ↔ others = [] := by
    rw [← List.length_eq_zero_iff, accepted.gives.length_eq, List.length_eq_zero_iff]
  constructor
  · rintro ⟨root, others, accepted, none⟩
    obtain rfl := Except.ok.inj (accepts.symm.trans (ofReport_eq_ok_iff.mpr ⟨root, accepted⟩))
    exact (length accepted).mp none
  · intro none
    obtain ⟨root, accepted⟩ := ofReport_eq_ok_iff.mp accepts
    exact ⟨root, changes, accepted, (length accepted).mpr none⟩

namespace Formatter

variable {host : Host} {options : Table} {wantsText : Bool} {folder file : String}
  {world final : World} {result : FileResult}

/-- What a launch comes to that is made in a world. -/
def answer (host : Host) (world : World) (request : Launch) :
    Except LaunchFailure CommandResult :=
  CommandResult.ofOutcome request (host.outcome world.effects request)

/-- The world after the first run on a file. -/
def afterFirst (options : Table) (folder file : String) (world : World) : World :=
  world.record (.launch (request options folder file))

/-- The world after the second run on a file. -/
def afterSecond (options : Table) (folder file : String) (world : World) : World :=
  (afterFirst options folder file world).record (.launch (textRequest options folder file))

/-- The ways in which the check of a file comes to its result, with what the first run and the
    second, if there is one, came to. -/
inductive Checks (host : Host) (options : Table) (wantsText : Bool) (folder file : String)
    (world : World) : CommandResult → Option CommandResult → FileResult → World → Prop where
  /-- The first run ends badly. -/
  | failed {first : CommandResult}
      (answered : answer host world (request options folder file) = .ok first)
      (bad : first.exitCode ≠ 0) :
      Checks host options wantsText folder file world first none
        (unread file first.output first.errorOutput) (afterFirst options folder file world)
  /-- Its report is refused. -/
  | refused {first : CommandResult} {problem : Replacement.Error}
      (answered : answer host world (request options folder file) = .ok first)
      (well : first.exitCode = 0) (refuses : Replacement.ofReport first.output = .error problem) :
      Checks host options wantsText folder file world first none
        (unread file first.output problem.message) (afterFirst options folder file world)
  /-- Its report is accepted, and nothing else is wanted. -/
  | once {first : CommandResult} {changes : List Replacement} {diagnostics : List Diagnostic}
      (answered : answer host world (request options folder file) = .ok first)
      (well : first.exitCode = 0) (accepts : Replacement.ofReport first.output = .ok changes)
      (unwanted : wantsText = false)
      (located : (locate folder file changes none).run.run (afterFirst options folder file world) =
        (.ok diagnostics, afterFirst options folder file world)) :
      Checks host options wantsText folder file world first none
        { resultOf file first changes none [] with diagnostics := diagnostics }
        (afterFirst options folder file world)
  /-- A second run is made for the text. -/
  | twice {first second : CommandResult} {changes : List Replacement}
      {diagnostics : List Diagnostic}
      (answered : answer host world (request options folder file) = .ok first)
      (well : first.exitCode = 0) (accepts : Replacement.ofReport first.output = .ok changes)
      (wanted : wantsText = true)
      (again : answer host (afterFirst options folder file world)
        (textRequest options folder file) = .ok second)
      (located : (locate folder file changes
          (resultOf file first changes (some second) []).formatted).run.run
          (afterSecond options folder file world) =
        (.ok diagnostics, afterSecond options folder file world)) :
      Checks host options wantsText folder file world first (some second)
        { resultOf file first changes (some second) [] with diagnostics := diagnostics }
        (afterSecond options folder file world)

/-- Finding the touched rows leaves the world as it is. Without changes there are none. -/
theorem locate_inv {changes : List Replacement} {formatted : Option String}
    {diagnostics : List Diagnostic}
    (ran : (locate folder file changes formatted).run.run world = (.ok diagnostics, final)) :
    final = world ∧ (changes = [] → diagnostics = []) := by
  have reads : (Session.read (pathIn folder file)).run.run world =
      (.ok (world.files.read (pathIn folder file)), world) := rfl
  unfold locate at ran
  split at ran
  · obtain ⟨found, rfl⟩ := Prod.mk.inj ran
    exact ⟨rfl, fun _ => (Except.ok.inj found).symm⟩
  · next some =>
    rw [Session.run_bind_ok reads] at ran
    refine ⟨?same, fun none => (some (List.isEmpty_iff.mpr none)).elim⟩
    split at ran
    · exact (Prod.mk.inj ran).2.symm
    · cases ran
    · exact (Prod.mk.inj ran).2.symm

/-- A program that gave a result did so because the launch came to it. -/
theorem execute_inv {program : String} {arguments : List String} {run : CommandResult}
    (ran : (Session.execute host program arguments folder).run.run world = (.ok run, final)) :
    answer host world ⟨program, arguments, some folder⟩ = .ok run ∧
      final = world.record (.launch ⟨program, arguments, some folder⟩) := by
  refine ⟨Session.ofOutcome_of_execute ran, ?_⟩
  rw [Session.execute_run] at ran
  exact (Prod.mk.inj ran).2.symm

/-- A check that comes to a result takes one of the four ways. -/
theorem checks_of_run
    (ran : (check host options wantsText folder file).run.run world = (.ok result, final)) :
    ∃ first second, Checks host options wantsText folder file world first second result final := by
  obtain ⟨program, start, lifted, ran⟩ := Session.run_bind_inv ran
  obtain ⟨named, rfl⟩ := Prod.mk.inj ((Session.lift_run _).symm.trans lifted)
  obtain rfl := Options.program_eq_ok named
  obtain ⟨first, middle, firstRan, ran⟩ := Session.run_bind_inv ran
  obtain ⟨answered, rfl⟩ := execute_inv firstRan
  split at ran
  · next bad =>
    obtain ⟨given, rfl⟩ := Prod.mk.inj ran
    obtain rfl := Except.ok.inj given
    exact ⟨first, none, .failed answered bad⟩
  · next well =>
    have well : first.exitCode = 0 := not_not.mp well
    split at ran
    · next problem refuses =>
      obtain ⟨given, rfl⟩ := Prod.mk.inj ran
      obtain rfl := Except.ok.inj given
      exact ⟨first, none, .refused answered well refuses⟩
    · next changes accepts =>
      dsimp only at ran
      split at ran
      · next wanted =>
        rw [map_eq_pure_bind, bind_assoc] at ran
        obtain ⟨second, last, secondRan, ran⟩ := Session.run_bind_inv ran
        obtain ⟨again, rfl⟩ := execute_inv secondRan
        rw [pure_bind] at ran
        obtain ⟨diagnostics, stop, located, ran⟩ := Session.run_bind_inv ran
        obtain ⟨rfl, -⟩ := locate_inv located
        obtain ⟨given, rfl⟩ := Prod.mk.inj ran
        obtain rfl := Except.ok.inj given
        exact ⟨first, some second, .twice answered well accepts wanted again located⟩
      · next unwanted =>
        rw [pure_bind] at ran
        obtain ⟨diagnostics, stop, located, ran⟩ := Session.run_bind_inv ran
        obtain ⟨rfl, -⟩ := locate_inv located
        obtain ⟨given, rfl⟩ := Prod.mk.inj ran
        obtain rfl := Except.ok.inj given
        exact ⟨first, none, .once answered well accepts (Bool.eq_false_iff.mpr unwanted) located⟩

namespace Checks

variable {first : CommandResult} {second : Option CommandResult}

/-- The first run came to what its launch did. -/
theorem answered_first
    (checks : Checks host options wantsText folder file world first second result final) :
    answer host world (request options folder file) = .ok first := by
  cases checks <;> assumption

/-- The second run, if there was one, came to what its launch did. -/
theorem answered_second
    (checks : Checks host options wantsText folder file world first second result final)
    {run : CommandResult} (made : second = some run) :
    answer host (afterFirst options folder file world) (textRequest options folder file) =
      .ok run := by
  cases checks with
  | twice _ _ _ _ again _ => exact Option.some.inj made ▸ again
  | failed | refused | once => cases made

/-- The launches are those of the runs. -/
theorem effects_eq
    (checks : Checks host options wantsText folder file world first second result final) :
    final.effects = world.effects ++ .launch (request options folder file) ::
      if second.isSome then [.launch (textRequest options folder file)] else [] := by
  cases checks with
  | twice => exact List.append_assoc ..
  | failed | refused | once => rfl

/-- There is a second run exactly if the text is wanted and the report of the first is
    accepted. -/
theorem isSome_second_iff
    (checks : Checks host options wantsText folder file world first second result final) :
    second.isSome = true ↔ wantsText = true ∧ first.exitCode = 0 ∧
      ∃ root changes, Replacement.Accepts first.output root changes := by
  cases checks with
  | failed _ bad => simp [bad]
  | refused _ _ refuses =>
    have none := Replacement.not_accepts_of_error refuses
    simp [none]
  | once _ _ _ unwanted => simp [unwanted]
  | twice _ well accepts wanted =>
    obtain ⟨root, accepted⟩ := Replacement.ofReport_eq_ok_iff.mp accepts
    simp only [Option.isSome_some, true_iff]
    exact ⟨wanted, well, root, _, accepted⟩

/-- A file passes exactly if the report on it is accepted and lists nothing, and no run on it ended
    badly. -/
theorem passed_iff
    (checks : Checks host options wantsText folder file world first second result final) :
    result.passed = true ↔ first.exitCode = 0 ∧
      (∃ root changes, Replacement.Accepts first.output root changes ∧
        Replacement.items root = []) ∧
      (wantsText = true → ∃ run, second = some run ∧ run.exitCode = 0) := by
  cases checks with
  | failed _ bad => simp [unread, bad]
  | refused _ _ refuses =>
    have none := Replacement.not_accepts_of_error refuses
    simp [unread, none]
  | once _ well accepts unwanted =>
    rw [Replacement.lists_nothing_iff accepts]
    simp [resultOf, well, unwanted]
  | twice _ well accepts wanted =>
    rw [Replacement.lists_nothing_iff accepts]
    simp [resultOf, well, wanted]

/-- The formatted text is the output of a second run that ended well. -/
theorem formatted_iff
    (checks : Checks host options wantsText folder file world first second result final)
    (text : String) :
    result.formatted = some text ↔ ∃ run, second = some run ∧ run.exitCode = 0 ∧
      run.output = text := by
  cases checks with
  | failed | refused | once => simp [unread, resultOf]
  | @twice run => by_cases well : run.exitCode = 0 <;> simp [resultOf, Option.filter, well]

/-- A file that passes has no changes and no findings. -/
theorem clean_of_passed
    (checks : Checks host options wantsText folder file world first second result final)
    (passed : result.passed = true) : result.replacements = [] ∧ result.diagnostics = [] := by
  cases checks with
  | failed | refused => exact ⟨rfl, rfl⟩
  | @once changes _ _ _ _ _ located =>
    have none : changes = [] := by simpa [resultOf] using passed
    exact ⟨none, (locate_inv located).2 none⟩
  | @twice _ changes _ _ _ _ _ _ located =>
    have none : changes = [] := by
      simp only [resultOf, Bool.and_eq_true, List.isEmpty_iff] at passed
      exact passed.1
    exact ⟨none, (locate_inv located).2 none⟩

/-- Without an accepted report there are no changes and no findings. The result says what the first
    run said, or why the report is refused. -/
theorem unaccepted
    (checks : Checks host options wantsText folder file world first second result final)
    (unaccepted : first.exitCode = 0 →
      ¬ ∃ root changes, Replacement.Accepts first.output root changes) :
    result.replacements = [] ∧ result.diagnostics = [] ∧
      (first.exitCode ≠ 0 → result.errorOutput = first.errorOutput) ∧
      (first.exitCode = 0 → ∃ problem, Replacement.Refuses first.output problem ∧
        result.errorOutput = problem.message) := by
  cases checks with
  | failed _ bad => exact ⟨rfl, rfl, fun _ => rfl, fun well => (bad well).elim⟩
  | refused _ well refuses =>
    exact ⟨rfl, rfl, fun bad => (bad well).elim,
      fun _ => ⟨_, Replacement.ofReport_error_iff.mp refuses, rfl⟩⟩
  | once _ well accepts | twice _ well accepts =>
    obtain ⟨root, accepted⟩ := Replacement.ofReport_eq_ok_iff.mp accepts
    exact (unaccepted well ⟨root, _, accepted⟩).elim

end Checks

/-- What is known of a result, whatever the runs on the file came to. The first run is made, and the
    second if the text is wanted and the first has ended well with a report that is accepted. The
    file passes if no run has ended badly and the report lists nothing; the result then has neither
    changes nor findings. It has the text if the second run has ended well. Without an accepted
    report there are no changes and no findings either, and the result says what went wrong. -/
theorem verdict_of_runs
    (ran : (check host options wantsText folder file).run.run world = (.ok result, final)) :
    ∃ (first : CommandResult) (second : Option CommandResult),
      answer host world (request options folder file) = .ok first ∧
      (∀ run, second = some run → answer host (afterFirst options folder file world)
        (textRequest options folder file) = .ok run) ∧
      final.effects = world.effects ++ .launch (request options folder file) ::
        (if second.isSome then [.launch (textRequest options folder file)] else []) ∧
      (second.isSome = true ↔ wantsText = true ∧ first.exitCode = 0 ∧
        ∃ root changes, Replacement.Accepts first.output root changes) ∧
      (result.passed = true ↔ first.exitCode = 0 ∧
        (∃ root changes, Replacement.Accepts first.output root changes ∧
          Replacement.items root = []) ∧
        (wantsText = true → ∃ run, second = some run ∧ run.exitCode = 0)) ∧
      (∀ text, result.formatted = some text ↔
        ∃ run, second = some run ∧ run.exitCode = 0 ∧ run.output = text) ∧
      (result.passed = true → result.replacements = [] ∧ result.diagnostics = []) ∧
      ((first.exitCode = 0 → ¬ ∃ root changes, Replacement.Accepts first.output root changes) →
        result.replacements = [] ∧ result.diagnostics = [] ∧
        (first.exitCode ≠ 0 → result.errorOutput = first.errorOutput) ∧
        (first.exitCode = 0 → ∃ problem, Replacement.Refuses first.output problem ∧
          result.errorOutput = problem.message)) := by
  obtain ⟨first, second, checks⟩ := checks_of_run ran
  exact ⟨first, second, checks.answered_first, fun _ => checks.answered_second, checks.effects_eq,
    checks.isSome_second_iff, checks.passed_iff, checks.formatted_iff, checks.clean_of_passed,
    checks.unaccepted⟩

/-! ## A second run that cannot be made -/

/-- A report of changes is read as these changes. -/
theorem ofReport_reported {changes : List Replacement}
    (reportable : ∀ change ∈ changes, change.IsReportable) :
    Replacement.ofReport (Replacement.report [] changes) = .ok changes := by
  rw [Replacement.ofReport, Replacement.read_report .nil reportable]
  exact Replacement.ofList_root reportable

/-- A host on which the formatter has nothing to change, and is gone after its first run. -/
def vanishingHost : Host where
  outcome before _ :=
    if before = [] then .finished 0 (Text.encode (Replacement.report [] []).toList) []
    else .failed .missing
  openError _ _ := none
  difference _ _ _ := .ok ""
  refusal _ _ := none
  login := "bot"

/-- The first run ends well, and lists no change. -/
theorem answer_vanishing : answer vanishingHost Checker.untouched (request [] "." "a.cpp") =
    .ok ⟨0, Replacement.report [] [], ""⟩ := by
  have plain : '\r' ∉ (Replacement.report [] []).toList := by decide +kernel
  change Except.ok (CommandResult.mk 0 (CommandResult.textOf _) "") = _
  rw [CommandResult.textOf_plain plain]

/-- The second run cannot be made, so the file does not pass, although there is nothing to change
    in it. -/
theorem verdict_of_runs_overruled :
    ∃ result final, (check vanishingHost [] true "." "a.cpp").run.run Checker.untouched =
        (.ok result, final) ∧
      final.effects = [.launch (request [] "." "a.cpp"), .launch (textRequest [] "." "a.cpp")] ∧
      result.passed = false ∧ result.formatted = none ∧
      ∃ root, Replacement.Accepts (Replacement.report [] []) root [] := by
  have usual : vanishingHost.IsUsual := by
    intro before launch
    by_cases early : before = [] <;> simp [vanishingHost, early, Outcome.IsUsual]
  have plainFolder : '\x00' ∉ ".".toList := by decide
  have plainFile : '\x00' ∉ "a.cpp".toList := by decide
  obtain ⟨result, final, ran⟩ :=
    check_returns usual (rfl : Options.program [] usualProgram = .ok usualProgram) true
      plainFolder plainFile Checker.untouched
  have reportable : ∀ change ∈ ([] : List Replacement), change.IsReportable := by simp
  obtain ⟨root, accepted⟩ := Replacement.ofReport_eq_ok_iff.mp (ofReport_reported reportable)
  obtain ⟨first, second, answered, again, effects, made, passed, formatted, -, -⟩ :=
    verdict_of_runs ran
  obtain rfl := Except.ok.inj (answer_vanishing.symm.trans answered)
  obtain ⟨run, rfl⟩ := Option.isSome_iff_exists.mp (made.mpr ⟨rfl, rfl, root, [], accepted⟩)
  have gone : run.exitCode = CommandResult.launchFailureCode := by
    rw [← Except.ok.inj (again run rfl)]
  refine ⟨result, final, ran, effects, ?fails, ?without, root, accepted⟩
  case fails =>
    rw [Bool.eq_false_iff, ne_eq, passed]
    rintro ⟨-, -, well⟩
    obtain ⟨_, ⟨⟩, well⟩ := well rfl
    exact absurd (gone.symm.trans well) (by decide)
  case without =>
    rw [Option.eq_none_iff_forall_ne_some]
    intro text given
    obtain ⟨_, ⟨⟩, well, -⟩ := (formatted text).mp given
    exact absurd (gone.symm.trans well) (by decide)

end Formatter

end LintReview
