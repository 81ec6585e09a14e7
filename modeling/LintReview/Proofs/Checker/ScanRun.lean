import LintReview.Checker.Options
import LintReview.Checker.Scan

/-!
# Runs of a scan

`Scans` describes a scan that comes to its end as a derivation, one rule for each way in
which a file is dealt with: it is ignored, it is checked and the scan goes on, or it is
checked and the scan stops there. The derivation names the files that were looked at, and
what the check found in those that it was applied to. Scanning and having a derivation are
the same, so each fact about scans is an induction on derivations.

A check is a function on an arbitrary state, and what it finds may depend on all that was
done before. `noting` makes it note its own applications, which shows that a derivation
leaves none of them out.
-/

namespace LintReview

variable {ε σ : Type}

/-- The file is one of those that are checked. -/
def isSelected (selects : String → Except ε Bool) (file : String) : Bool :=
  match selects file with
  | .ok selected => selected
  | .error _ => false

/-- The check, which also notes each file that it is applied to and how that ended. -/
def noting (check : String → ExceptT ε (StateM σ) FileResult) (file : String) :
    ExceptT ε (StateM (List (String × Except ε FileResult) × σ)) FileResult :=
  ExceptT.mk fun (notes, state) =>
    let (outcome, next) := (check file).run.run state
    (outcome, (notes ++ [(file, outcome)], next))

/-- Noting changes neither the outcome nor what the check does to the state. -/
theorem noting_run {check : String → ExceptT ε (StateM σ) FileResult} {file : String}
    {state next : σ} {outcome : Except ε FileResult} (notes : List (String × Except ε FileResult))
    (found : (check file).run.run state = (outcome, next)) :
    (noting check file).run.run (notes, state) =
      (outcome, (notes ++ [(file, outcome)], next)) := by
  change (match (check file).run.run state with
    | (outcome, next) => (outcome, (notes ++ [(file, outcome)], next))) = _
  rw [found]

/-- What is noted of checks that all gave a result. -/
def notesOf (applied : List (String × FileResult)) : List (String × Except ε FileResult) :=
  applied.map fun (file, result) => (file, .ok result)

section Steps

variable {selects : String → Except ε Bool} {check : String → ExceptT ε (StateM σ) FileResult}
  {stopsEarly : Bool} {file : String} {rest : List String} {report : Report} {state next : σ}

/-- If it cannot be told whether a file is selected, the scan ends before it. -/
theorem scan_unreadable {cause : ε} (unreadable : selects file = .error cause) :
    (scan selects check stopsEarly (file :: rest) report).run state =
      ((report, .error cause), state) := by
  simp only [scan, unreadable]
  rfl

/-- A file that is not selected is ignored. -/
theorem scan_ignored (unselected : selects file = .ok false) :
    scan selects check stopsEarly (file :: rest) report =
      scan selects check stopsEarly rest (report.ignore file) := by
  simp only [scan, unselected]

/-- If the check fails altogether, the scan ends with the report on the files before. -/
theorem scan_raised {cause : ε} (selected : selects file = .ok true)
    (raised : (check file).run.run state = (.error cause, next)) :
    (scan selects check stopsEarly (file :: rest) report).run state =
      ((report, .error cause), next) := by
  simp only [scan, selected, StateT.run_bind, raised]
  rfl

/-- The scan goes on after a file that passed, and after any file unless it stops early. -/
theorem scan_checked {result : FileResult} (selected : selects file = .ok true)
    (found : (check file).run.run state = (.ok result, next))
    (goesOn : result.passed = true ∨ stopsEarly = false) :
    (scan selects check stopsEarly (file :: rest) report).run state =
      (scan selects check stopsEarly rest (report.add file result)).run next := by
  have continues : (!result.passed && stopsEarly) = false := by
    rcases goesOn with passed | late
    · simp [passed]
    · simp [late]
  simp only [scan, selected, StateT.run_bind, found]
  change StateT.run (if (!result.passed && stopsEarly) = true then _ else
    scan selects check stopsEarly rest (report.add file result)) next = _
  rw [continues, if_neg Bool.false_ne_true]

/-- A scan that stops early ends with the first file that failed. -/
theorem scan_stopped {result : FileResult} (selected : selects file = .ok true)
    (found : (check file).run.run state = (.ok result, next))
    (failed : result.passed = false) (early : stopsEarly = true) :
    (scan selects check stopsEarly (file :: rest) report).run state =
      (({ report.add file result with stoppedEarly := true }, .ok ()), next) := by
  have ends : (!result.passed && stopsEarly) = true := by simp [failed, early]
  simp only [scan, selected, StateT.run_bind, found]
  change StateT.run (if (!result.passed && stopsEarly) = true then
    pure ({ report.add file result with stoppedEarly := true }, Except.ok ()) else _) next = _
  rw [ends, if_pos rfl]
  rfl

end Steps

/-- A scan of files that comes to its end: from a report and a state, through the files
    that are looked at and the results of those that are checked, to a report and a
    state. -/
inductive Scans (selects : String → Except ε Bool)
    (check : String → ExceptT ε (StateM σ) FileResult) (stopsEarly : Bool) :
    List String → Report → σ → List String → List (String × FileResult) → Report → σ → Prop where
  | done (report : Report) (state : σ) :
      Scans selects check stopsEarly [] report state [] [] report state
  | ignored {file rest report state examined applied last final}
      (unselected : selects file = .ok false)
      (tail : Scans selects check stopsEarly rest (report.ignore file) state
        examined applied last final) :
      Scans selects check stopsEarly (file :: rest) report state
        (file :: examined) applied last final
  | checked {file rest report state result next examined applied last final}
      (selected : selects file = .ok true)
      (found : (check file).run.run state = (.ok result, next))
      (goesOn : result.passed = true ∨ stopsEarly = false)
      (tail : Scans selects check stopsEarly rest (report.add file result) next
        examined applied last final) :
      Scans selects check stopsEarly (file :: rest) report state
        (file :: examined) ((file, result) :: applied) last final
  | stopped {file rest report state result next}
      (selected : selects file = .ok true)
      (found : (check file).run.run state = (.ok result, next))
      (failed : result.passed = false) (early : stopsEarly = true) :
      Scans selects check stopsEarly (file :: rest) report state [file] [(file, result)]
        { report.add file result with stoppedEarly := true } next

section Runs

variable {selects : String → Except ε Bool} {check : String → ExceptT ε (StateM σ) FileResult}
  {stopsEarly : Bool} {files examined : List String} {applied : List (String × FileResult)}
  {report last : Report} {state final : σ}

/-- Every scan that comes to its end has a derivation. -/
theorem scans_of_run
    (ran : (scan selects check stopsEarly files report).run state = ((last, .ok ()), final)) :
    ∃ examined applied,
      Scans selects check stopsEarly files report state examined applied last final := by
  induction files generalizing report state with
  | nil =>
    have same : ((report, Except.ok ()), state) = ((last, Except.ok ()), final) := ran
    cases same
    exact ⟨[], [], .done _ _⟩
  | cons file rest inductionHypothesis =>
    cases readable : selects file with
    | error cause =>
      rw [scan_unreadable readable] at ran
      cases ran
    | ok selected =>
      cases selected with
      | false =>
        rw [scan_ignored readable] at ran
        obtain ⟨examined, applied, tail⟩ := inductionHypothesis ran
        exact ⟨file :: examined, applied, .ignored readable tail⟩
      | true =>
        rcases found : (check file).run.run state with ⟨outcome, next⟩
        cases outcome with
        | error cause =>
          rw [scan_raised readable found] at ran
          cases ran
        | ok result =>
          by_cases goesOn : result.passed = true ∨ stopsEarly = false
          · rw [scan_checked readable found goesOn] at ran
            obtain ⟨examined, applied, tail⟩ := inductionHypothesis ran
            exact ⟨file :: examined, (file, result) :: applied, .checked readable found goesOn tail⟩
          · obtain ⟨failed, early⟩ : result.passed = false ∧ stopsEarly = true := by
              simpa using goesOn
            rw [scan_stopped readable found failed early] at ran
            cases ran
            exact ⟨[file], [(file, result)], .stopped readable found failed early⟩

/-- A derivation is carried out by the scan. -/
theorem Scans.run
    (scans : Scans selects check stopsEarly files report state examined applied last final) :
    (scan selects check stopsEarly files report).run state = ((last, .ok ()), final) := by
  induction scans with
  | done report state => rfl
  | ignored unselected tail inductionHypothesis =>
    rw [scan_ignored unselected, inductionHypothesis]
  | checked selected found goesOn tail inductionHypothesis =>
    rw [scan_checked selected found goesOn, inductionHypothesis]
  | stopped selected found failed early => exact scan_stopped selected found failed early

/-- With a check that notes its applications, the scan does the same, and notes exactly the
    applications of the derivation, each once and in order. -/
theorem Scans.noting (notes : List (String × Except ε FileResult))
    (scans : Scans selects check stopsEarly files report state examined applied last final) :
    Scans selects (LintReview.noting check) stopsEarly files report (notes, state)
      examined applied last (notes ++ notesOf applied, final) := by
  induction scans generalizing notes with
  | done report state =>
    rw [notesOf, List.map_nil, List.append_nil]
    exact .done report (notes, state)
  | ignored unselected tail inductionHypothesis =>
    exact .ignored unselected (inductionHypothesis notes)
  | @checked file _ _ _ result _ _ _ _ _ selected found goesOn tail inductionHypothesis =>
    have noted := inductionHypothesis (notes ++ [(file, .ok result)])
    rw [List.append_assoc] at noted
    exact .checked selected (noting_run notes found) goesOn noted
  | stopped selected found failed early =>
    exact .stopped selected (noting_run notes found) failed early

end Runs

end LintReview
