import LintReview.Run.Checkers
import LintReview.Proofs.Checker.Launches

/-!
# What the checkers of a run launch

The checkers of a run examine its files one checker after the other, so their launches come in
that order too (`Run.examinations`). If a checker fails altogether, those before it have made
all their launches, it has made a beginning of its own, and those after it have made none.
-/

namespace LintReview

/-- Printing a text with styles does nothing else. -/
theorem Session.say_follows (host : Host) (text : String) (world : World) :
    Follows host [] (say text) world := by
  unfold say
  cases Console.printed? text.toList with
  | none => exact .of_run rfl rfl
  | some plain => exact print_follows host _ world

/-- The report of a checker is that of a scan of files, from one world to another, that began
    with an empty report and came to its end. -/
def Checker.Scanned (host : Host) (checker : Checker) (folder : String) (files : List String)
    (before after : World) : Prop :=
  (LintReview.scan (Options.selects checker.options) (checker.check host folder)
    (Options.stopsEarly checker.options) files .empty).run before =
      ((checker.report, .ok ()), after)

namespace Run

/-- A section gives one checker or none. -/
theorem checkerOf_eq_ok {config : Table} {name : String} {kind : CheckerKind}
    {checkers : List Checker} (given : checkerOf config name kind = .ok checkers) :
    ∃ options, sectionOf config name = .ok options ∧
      checkers = if isEnabled options then [.new kind options] else [] := by
  unfold checkerOf at given
  cases found : sectionOf config name with
  | error cause =>
    rw [found] at given
    cases given
  | ok options =>
    rw [found] at given
    exact ⟨options, rfl, (Except.ok.inj given).symm⟩

/-- The checkers of a run are the formatter, if its section has it take part, and after it the
    analyzer, if its section does. -/
theorem checkersOf_eq_ok {config : Table} {review : Bool} {checkers : List Checker}
    (given : checkersOf config review = .ok checkers) :
    ∃ formatting analyzing, sectionOf config Config.formatterSection = .ok formatting ∧
      sectionOf config Config.analyzerSection = .ok analyzing ∧
      checkers = (if isEnabled formatting then [.new (.formatter review) formatting] else []) ++
        (if isEnabled analyzing then [.new .analyzer analyzing] else []) := by
  unfold checkersOf at given
  cases first : checkerOf config Config.formatterSection (.formatter review) with
  | error cause =>
    rw [first] at given
    cases given
  | ok formatters =>
    rw [first] at given
    cases second : checkerOf config Config.analyzerSection .analyzer with
    | error cause =>
      rw [second] at given
      cases given
    | ok analyzers =>
      rw [second] at given
      obtain ⟨formatting, formatted, rfl⟩ := checkerOf_eq_ok first
      obtain ⟨analyzing, analyzed, rfl⟩ := checkerOf_eq_ok second
      exact ⟨formatting, analyzing, formatted, analyzed, (Except.ok.inj given).symm⟩

/-- The checkers of a run have not examined anything at its start. -/
theorem checkersOf_fresh {config : Table} {review : Bool} {checkers : List Checker}
    (given : checkersOf config review = .ok checkers) :
    ∀ checker ∈ checkers, checker.report = .empty := by
  obtain ⟨formatting, analyzing, -, -, rfl⟩ := checkersOf_eq_ok given
  intro checker member
  rcases List.mem_append.mp member with first | second
  · split at first
    · rw [List.mem_singleton.mp first, Checker.new]
    · cases first
  · split at second
    · rw [List.mem_singleton.mp second, Checker.new]
    · cases second

/-- The formatter comes first and the analyzer second, each at most once. -/
theorem checkersOf_titles {config : Table} {review : Bool} {checkers : List Checker}
    (given : checkersOf config review = .ok checkers) :
    (checkers.map Checker.title).Sublist [Formatter.usualProgram, Analyzer.usualProgram] := by
  obtain ⟨formatting, analyzing, -, -, rfl⟩ := checkersOf_eq_ok given
  cases isEnabled formatting <;> cases isEnabled analyzing <;>
    simp [Checker.new, Checker.title]

variable {host : Host} {folder : String} {files : List String} {checker : Checker}
  {world final : World}

/-- Letting a checker examine files is scanning them, after a line that says so. -/
theorem examineWith_scans {outcome : Except Failure Checker}
    (ran : (examineWith host folder files checker).run.run world = (outcome, final)) :
    (∃ cause, outcome = .error cause ∧ final.silent = world.silent) ∨
    ∃ middle report ending, middle.silent = world.silent ∧
      (LintReview.scan (Options.selects checker.options) (checker.check host folder)
        (Options.stopsEarly checker.options) files checker.report).run middle =
          ((report, ending), final) ∧
      outcome = ending.map fun _ => { checker with report := report } := by
  unfold examineWith at ran
  rcases said : (Session.say (Console.Message.running checker files.length)).run.run world with
    ⟨announced, middle⟩
  cases announced with
  | error cause =>
    rw [Session.run_bind_error said] at ran
    cases ran
    obtain ⟨done, traced, begun, -⟩ := Session.say_follows host _ world _ _ said
    obtain rfl := List.prefix_nil.mp begun
    exact .inl ⟨cause, rfl, traced.left⟩
  | ok =>
    have unchanged := ((Session.say_follows host _ world).traced_ok said).left
    rcases scanned : (LintReview.scan (Options.selects checker.options)
      (checker.check host folder) (Options.stopsEarly checker.options) files
      checker.report).run middle with ⟨⟨report, ending⟩, last⟩
    have lifted := Session.liftState_run (Checker.scan_run scanned)
    rw [Session.run_bind_ok said, Session.run_bind_ok lifted] at ran
    refine .inr ⟨middle, report, ending, unchanged, ?_, ?_⟩
    · cases ending <;> cases ran <;> exact scanned
    · cases ending <;> cases ran <;> rfl

/-- A checker that comes to its end has the report of a scan from the beginning. -/
theorem examineWith_scanned {examined : Checker} (fresh : checker.report = .empty)
    (ran : (examineWith host folder files checker).run.run world = (.ok examined, final)) :
    examined.renewed = checker ∧
      ∃ middle, middle.silent = world.silent ∧ examined.Scanned host folder files middle final := by
  rcases examineWith_scans ran with ⟨cause, impossible, -⟩ |
    ⟨middle, report, ending, announced, scanned, ended⟩
  · cases impossible
  · cases ending with
    | error cause => cases ended
    | ok =>
      obtain rfl : examined = { checker with report := report } := Except.ok.inj ended
      rw [fresh] at scanned
      have same : ({ checker with report := report } : Checker).renewed = checker := by
        rw [Checker.renewed, Checker.new, ← fresh]
      exact ⟨same, middle, announced, scanned⟩

/-- A checker that comes to its end has made the launches for the files that it checked. -/
theorem examineWith_launched {examined : Checker} (distinct : files.Nodup)
    (fresh : checker.report = .empty)
    (ran : (examineWith host folder files checker).run.run world = (.ok examined, final)) :
    Traced host world (.ok () : Except Failure Unit) final
      (examined.launchesFor host folder (examined.checkedFiles files) world.effects) := by
  obtain ⟨-, middle, announced, scanned⟩ := examineWith_scanned fresh ran
  obtain ⟨looked, applied, scans⟩ := scans_of_run scanned
  have launched := scans.launched
  have said : Traced host world (.ok () : Except Failure Unit) middle [] := .nothing _ announced
  have before := said.effects_eq
  rw [List.append_nil] at before
  rw [before, (scans.partition distinct).applied_eq_checkedFiles] at launched
  exact said.append launched

/-- A checker that fails altogether has made a beginning of the launches for all files that it
    selects. -/
theorem examineWith_interrupted {cause : Failure}
    (ran : (examineWith host folder files checker).run.run world = (.error cause, final)) :
    ∃ done, Traced host world (.error cause : Except Failure Unit) final done ∧
      done <+: checker.launchesFor host folder
        (files.filter (isSelected (Options.selects checker.options))) world.effects := by
  rcases examineWith_scans ran with ⟨other, -, unchanged⟩ |
    ⟨middle, report, ending, announced, scanned, ended⟩
  · exact ⟨[], .nothing _ unchanged, List.nil_prefix⟩
  · cases ending with
    | ok => cases ended
    | error other =>
      obtain rfl : cause = other := Except.error.inj ended
      obtain ⟨done, traced, begun⟩ := Checker.launched_of_interrupted scanned
      have said : Traced host world (.ok () : Except Failure Unit) middle [] :=
        .nothing _ announced
      have before := said.effects_eq
      rw [List.append_nil] at before
      rw [before] at begun
      exact ⟨done, said.append traced, begun⟩

/-- The launches of checkers that have examined files, one checker after the other, after the
    given effects. -/
def examinations (host : Host) (folder : String) (files : List String) :
    List Checker → List Effect → List Effect
  | [], _ => []
  | checker :: rest, before =>
    let launched := checker.launchesFor host folder (checker.checkedFiles files) before
    launched ++ examinations host folder files rest (before ++ launched)

/-- Examining files posts nothing. -/
theorem posts_examinations (host : Host) (folder : String) (files : List String)
    (checkers : List Checker) (before : List Effect) :
    ∀ effect ∈ examinations host folder files checkers before, effect.posts = false := by
  induction checkers generalizing before with
  | nil => simp [examinations]
  | cons checker rest inductionHypothesis =>
    rw [examinations, List.forall_mem_append]
    exact ⟨Checker.posts_launchesFor host checker folder _ before, inductionHypothesis _⟩

/-- Checkers that come to their end do so one after the other. -/
theorem examine_cons {rest examined : List Checker}
    (ran : (examine host folder files (checker :: rest)).run.run world = (.ok examined, final)) :
    ∃ first middle others, examined = first :: others ∧
      (examineWith host folder files checker).run.run world = (.ok first, middle) ∧
      (examine host folder files rest).run.run middle = (.ok others, final) := by
  obtain ⟨first, middle, firstRan, restRan⟩ := Session.run_bind_inv ran
  obtain ⟨others, last, othersRan, ended⟩ := Session.run_bind_inv restRan
  obtain ⟨same, rfl⟩ := Prod.mk.inj ended
  exact ⟨first, middle, others, (Except.ok.inj same).symm, firstRan, othersRan⟩

/-- Checkers that have not examined anything and that come to their end have the reports of
    scans from the beginning. -/
theorem examine_scanned {checkers examined : List Checker}
    (fresh : ∀ checker ∈ checkers, checker.report = .empty)
    (ran : (examine host folder files checkers).run.run world = (.ok examined, final)) :
    examined.map Checker.renewed = checkers ∧
      ∀ checker ∈ examined, ∃ before after, checker.Scanned host folder files before after := by
  induction checkers generalizing examined world with
  | nil =>
    cases ran
    exact ⟨rfl, List.forall_mem_nil _⟩
  | cons checker rest inductionHypothesis =>
    obtain ⟨first, middle, others, rfl, firstRan, othersRan⟩ := examine_cons ran
    obtain ⟨firstSame, before, -, scanned⟩ :=
      examineWith_scanned (fresh checker List.mem_cons_self) firstRan
    obtain ⟨othersSame, othersScanned⟩ := inductionHypothesis
      (fun other member => fresh other (List.mem_cons_of_mem _ member)) othersRan
    rw [List.map_cons, firstSame, othersSame]
    exact ⟨rfl, List.forall_mem_cons.mpr ⟨⟨before, middle, scanned⟩, othersScanned⟩⟩

/-- Checkers that have not examined anything and that come to their end have made the launches
    for the files that they checked. -/
theorem examine_launched {checkers examined : List Checker} (distinct : files.Nodup)
    (fresh : ∀ checker ∈ checkers, checker.report = .empty)
    (ran : (examine host folder files checkers).run.run world = (.ok examined, final)) :
    Traced host world (.ok () : Except Failure Unit) final
      (examinations host folder files examined world.effects) := by
  induction checkers generalizing examined world with
  | nil =>
    cases ran
    exact .nothing _ rfl
  | cons checker rest inductionHypothesis =>
    obtain ⟨first, middle, others, rfl, firstRan, othersRan⟩ := examine_cons ran
    have launched := examineWith_launched distinct (fresh checker List.mem_cons_self) firstRan
    have later := inductionHypothesis
      (fun other member => fresh other (List.mem_cons_of_mem _ member)) othersRan
    rw [launched.effects_eq] at later
    exact launched.append later

/-- If a checker fails altogether, the checkers before it have come to their end and those
    after it have not begun. -/
theorem examine_interrupted {checkers : List Checker} {cause : Failure} (distinct : files.Nodup)
    (fresh : ∀ checker ∈ checkers, checker.report = .empty)
    (ran : (examine host folder files checkers).run.run world = (.error cause, final)) :
    ∃ finished current later done,
      checkers = finished.map Checker.renewed ++ current :: later ∧
      Traced host world (.error cause : Except Failure Unit) final
        (examinations host folder files finished world.effects ++ done) ∧
      done <+: current.launchesFor host folder
        (files.filter (isSelected (Options.selects current.options)))
        (world.effects ++ examinations host folder files finished world.effects) := by
  induction checkers generalizing world with
  | nil => cases ran
  | cons checker rest inductionHypothesis =>
    rcases firstRan : (examineWith host folder files checker).run.run world with
      ⟨outcome, middle⟩
    cases outcome with
    | error other =>
      rw [examine, Session.run_bind_error firstRan] at ran
      cases ran
      obtain ⟨done, traced, begun⟩ := examineWith_interrupted firstRan
      refine ⟨[], checker, rest, done, rfl, traced, ?_⟩
      rwa [examinations, List.append_nil]
    | ok first =>
      rw [examine, Session.run_bind_ok firstRan] at ran
      rcases restRan : (examine host folder files rest).run.run middle with ⟨ending, last⟩
      cases ending with
      | ok others =>
        rw [Session.run_bind_ok restRan] at ran
        cases ran
      | error other =>
        rw [Session.run_bind_error restRan] at ran
        cases ran
        have firstSame :=
          (examineWith_scanned (fresh checker List.mem_cons_self) firstRan).1
        have launched :=
          examineWith_launched distinct (fresh checker List.mem_cons_self) firstRan
        obtain ⟨finished, current, later, done, restSame, traced, begun⟩ := inductionHypothesis
          (fun other member => fresh other (List.mem_cons_of_mem _ member)) restRan
        rw [launched.effects_eq] at traced begun
        refine ⟨first :: finished, current, later, done, ?_, ?_, ?_⟩
        · rw [List.map_cons, firstSame, restSame, List.cons_append]
        · rw [examinations, List.append_assoc]
          exact launched.append traced
        · rw [examinations, ← List.append_assoc]
          exact begun

end Run

end LintReview
