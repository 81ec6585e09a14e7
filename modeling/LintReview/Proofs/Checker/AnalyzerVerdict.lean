import LintReview.Proofs.Checker.Launches

/-!
# The verdict of the analyzer

Where what becomes of a launch depends only on the launch, the verdict of the analyzer on a
file is a function of its options, the folder and the file (`Analyzer.verdict`). The file
fails exactly if the analyzer objects to it (`Analyzer.Objects`): it cannot be launched, or it
ends with another code than nought, or it writes the header of a finding.

Options that differ only in whether the scan stops early lead to the same launches and to the
same verdicts.
-/

namespace LintReview

/-- What becomes of a launch depends only on the launch. -/
def Host.AnswersBy (host : Host) (answer : Launch → Outcome) : Prop :=
  ∀ before request, host.outcome before request = answer request

/-! ## Findings and headers -/

namespace Diagnostic

/-- There are findings in lines exactly if one of the lines is a header. -/
theorem group_ne_nil_iff {lines details : List (List Char)} {diagnostics : List Diagnostic}
    (read : group lines = .ok (details, diagnostics)) :
    diagnostics ≠ [] ↔ ∃ line ∈ lines, ∃ diagnostic, ofHeader? line = .ok (some diagnostic) := by
  induction lines generalizing details diagnostics with
  | nil =>
    cases read
    simp
  | cons line rest inductionHypothesis =>
    unfold group at read
    cases headed : ofHeader? line with
    | error cause =>
      rw [headed] at read
      cases read
    | ok header =>
      cases grouped : group rest with
      | error cause =>
        rw [headed, grouped] at read
        cases read
      | ok parts =>
        obtain ⟨later, others⟩ := parts
        rw [headed, grouped] at read
        have tail := inductionHypothesis grouped
        cases header with
        | some diagnostic =>
          cases read
          simp [headed]
        | none =>
          cases read
          simp [headed, tail]

/-- An output has findings exactly if one of its lines is a header. -/
theorem ofOutput_ne_nil_iff {output : String} {diagnostics : List Diagnostic}
    (read : ofOutput output = .ok diagnostics) :
    diagnostics ≠ [] ↔ ∃ line ∈ Text.lines output.toList,
      ∃ diagnostic, ofHeader? line = .ok (some diagnostic) := by
  unfold ofOutput at read
  cases grouped : group (Text.lines output.toList) with
  | error cause =>
    rw [grouped] at read
    cases read
  | ok parts =>
    obtain ⟨details, found⟩ := parts
    rw [grouped] at read
    obtain rfl : found = diagnostics := Except.ok.inj read
    exact group_ne_nil_iff grouped

end Diagnostic

namespace Analyzer

/-! ## Verdicts -/

/-- A run of the analyzer fails its file exactly if it ended with another code than nought or
    wrote the header of a finding. -/
theorem resultOf_failed_iff {file : String} {run : CommandResult} {result : FileResult}
    (made : resultOf file run = .ok result) :
    result.passed = false ↔ run.exitCode ≠ 0 ∨ ∃ line ∈ Text.lines run.output.toList,
      ∃ diagnostic, Diagnostic.ofHeader? line = .ok (some diagnostic) := by
  unfold resultOf at made
  cases read : Diagnostic.ofOutput run.output with
  | error cause =>
    rw [read] at made
    cases made
  | ok diagnostics =>
    cases counted : Statistics.ofErrorOutput run.errorOutput with
    | error cause =>
      rw [read, counted] at made
      cases made
    | ok statistics =>
      rw [read, counted] at made
      cases made
      rw [← Diagnostic.ofOutput_ne_nil_iff read]
      cases diagnostics with
      | nil => simp
      | cons diagnostic rest => simp

/-- The verdict on a file, where launches are answered in the given way. -/
def verdict (answer : Launch → Outcome) (options : Table) (folder file : String) :
    Except Failure FileResult := do
  let _ ← Options.program options usualProgram
  let request := request options folder file
  let run ← (CommandResult.ofOutcome request (answer request)).mapError (.launch · request)
  (resultOf file run).mapError .number

/-- The analyzer objects to the file that it is launched for. -/
inductive Objects (answer : Launch → Outcome) (request : Launch) : Prop where
  /-- Its program is not there. -/
  | missing (answered : answer request = .failed .missing)
  /-- Its program may not be run. -/
  | notPermitted (answered : answer request = .failed .notPermitted)
  /-- It ends with another code than nought. -/
  | exits {exitCode : Int} {output errorOutput : List UInt8}
      (answered : answer request = .finished exitCode output errorOutput)
      (nonzero : exitCode ≠ 0)
  /-- It writes the header of a finding. -/
  | writes {exitCode : Int} {output errorOutput : List UInt8} {line : List Char}
      {diagnostic : Diagnostic}
      (answered : answer request = .finished exitCode output errorOutput)
      (written : line ∈ Text.lines (CommandResult.textOf output).toList)
      (header : Diagnostic.ofHeader? line = .ok (some diagnostic))

/-- A verdict comes from what became of the launch. -/
theorem verdict_eq_ok {answer : Launch → Outcome} {options : Table} {folder file : String}
    {result : FileResult} (given : verdict answer options folder file = .ok result) :
    ∃ run, CommandResult.ofOutcome (request options folder file)
        (answer (request options folder file)) = .ok run ∧ resultOf file run = .ok result := by
  unfold verdict at given
  cases named : Options.program options usualProgram with
  | error cause =>
    rw [named] at given
    cases given
  | ok program =>
    rw [named] at given
    cases answered : CommandResult.ofOutcome (request options folder file)
        (answer (request options folder file)) with
    | error cause =>
      simp only [answered] at given
      cases given
    | ok run =>
      simp only [answered] at given
      cases made : resultOf file run with
      | error cause =>
        change (resultOf file run).mapError Failure.number = _ at given
        rw [made] at given
        cases given
      | ok other =>
        change (resultOf file run).mapError Failure.number = _ at given
        rw [made] at given
        obtain rfl : other = result := Except.ok.inj given
        exact ⟨run, rfl, made⟩

/-- A file fails exactly if the analyzer objects to it. -/
theorem verdict_failed_iff {answer : Launch → Outcome} {options : Table} {folder file : String}
    {result : FileResult} (given : verdict answer options folder file = .ok result) :
    result.passed = false ↔ Objects answer (request options folder file) := by
  obtain ⟨run, ended, made⟩ := verdict_eq_ok given
  rw [resultOf_failed_iff made]
  constructor
  · intro fails
    cases answered : answer (request options folder file) with
    | finished exitCode output errorOutput =>
      rw [answered] at ended
      obtain rfl := Except.ok.inj ended
      rcases fails with nonzero | ⟨line, written, diagnostic, header⟩
      · exact .exits answered nonzero
      · exact .writes answered written header
    | failed cause =>
      rw [answered] at ended
      cases cause with
      | missing => exact .missing answered
      | notPermitted => exact .notPermitted answered
      | notExecutable => cases ended
      | timedOut => cases ended
  · intro objects
    cases objects with
    | missing answered | notPermitted answered =>
      rw [answered] at ended
      obtain rfl := Except.ok.inj ended
      have nonzero : CommandResult.launchFailureCode ≠ 0 := by decide
      exact .inl nonzero
    | exits answered nonzero =>
      rw [answered] at ended
      obtain rfl := Except.ok.inj ended
      exact .inl nonzero
    | writes answered written header =>
      rw [answered] at ended
      obtain rfl := Except.ok.inj ended
      exact .inr ⟨_, written, _, header⟩

/-- Checking a file gives the verdict on it, if its launch is answered in the given way. -/
theorem check_answered {host : Host} {answer : Launch → Outcome} {options : Table}
    {folder file : String} {world : World}
    (answered : host.outcome world.effects (request options folder file) =
      answer (request options folder file)) :
    ((check host options folder file).run.run world).1 = verdict answer options folder file := by
  cases named : Options.program options usualProgram with
  | error cause =>
    rw [check, verdict, named]
    rfl
  | ok program =>
    rw [check_run named, verdict, named, answered]
    rfl

/-- Checking a file gives the verdict on it, whatever was done before. -/
theorem check_verdict {host : Host} {answer : Launch → Outcome} (answers : host.AnswersBy answer)
    (options : Table) (folder file : String) (world : World) :
    ((check host options folder file).run.run world).1 = verdict answer options folder file :=
  check_answered (answers _ _)

/-! ## Options that differ only in stopping early -/

/-- Options give the same values, but for whether the scan stops early. -/
def SameButHaste (options others : Table) : Prop :=
  ∀ name, name ≠ "fast_exit" → options.get? name = others.get? name

section Same

variable {options others : Table}

theorem SameButHaste.given?_eq (same : SameButHaste options others) {name : String}
    (other : name ≠ "fast_exit") : options.given? name = others.given? name := by
  rw [Table.given?, Table.given?, same name other]

/-- The same files are selected. -/
theorem SameButHaste.selects_eq (same : SameButHaste options others) :
    Options.selects options = Options.selects others := by
  funext file
  unfold Options.selects Options.sourcePattern
  rw [same.given?_eq (by decide)]

/-- The same program is run. -/
theorem SameButHaste.program_eq (same : SameButHaste options others) (usual : String) :
    Options.program options usual = Options.program others usual := by
  unfold Options.program
  rw [same.given?_eq (by decide)]

/-- The same launch is made for a file. -/
theorem SameButHaste.request_eq (same : SameButHaste options others) (folder file : String) :
    request options folder file = request others folder file := by
  have passed : passedOn.filterMap (argument? options) = passedOn.filterMap (argument? others) := by
    apply List.filterMap_congr
    intro entry member
    have other : entry.1 ≠ "fast_exit" := by
      revert entry
      decide
    obtain ⟨name, flag, form⟩ := entry
    rw [argument?, argument?, same.given?_eq other]
  unfold request Options.programName arguments
  rw [same.given?_eq (by decide), passed]

/-- The verdicts are the same. -/
theorem SameButHaste.verdict_eq (same : SameButHaste options others)
    (answer : Launch → Outcome) (folder file : String) :
    verdict answer options folder file = verdict answer others folder file := by
  unfold verdict
  rw [same.program_eq, same.request_eq]

end Same

end Analyzer

end LintReview
