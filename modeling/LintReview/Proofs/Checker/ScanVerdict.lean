import LintReview.Proofs.Checker.ScanPartition

/-!
# Scans with a check that does not depend on the state

If what a check says of a file does not depend on what was done before, the report of a scan
depends on the files and on what the check says of them, and on nothing else. Whether some
file failed does not even depend on whether the scan stops early: a scan that stops does so
because of a file that failed.

Files need not be distinct here. A repeated file gets the same result each time.
-/

namespace LintReview

variable {ε σ τ : Type}

/-- Two scans with checks that always say the same leave the same report and end the same
    way. -/
theorem scan_agrees (selects : String → Except ε Bool) (stopsEarly : Bool)
    {first : String → ExceptT ε (StateM σ) FileResult}
    {second : String → ExceptT ε (StateM τ) FileResult}
    (agree : ∀ file state other,
      ((first file).run.run state).1 = ((second file).run.run other).1)
    (files : List String) (report : Report) (state : σ) (other : τ) :
    ((scan selects first stopsEarly files report).run state).1 =
      ((scan selects second stopsEarly files report).run other).1 := by
  induction files generalizing report state other with
  | nil => rfl
  | cons file rest inductionHypothesis =>
    cases readable : selects file with
    | error cause => rw [scan_unreadable readable, scan_unreadable readable]
    | ok selected =>
      cases selected with
      | false =>
        rw [scan_ignored readable, scan_ignored readable]
        exact inductionHypothesis (report.ignore file) state other
      | true =>
        have same := agree file state other
        rcases found : (first file).run.run state with ⟨outcome, next⟩
        rcases foundToo : (second file).run.run other with ⟨otherOutcome, otherNext⟩
        rw [found, foundToo] at same
        obtain rfl : outcome = otherOutcome := same
        cases outcome with
        | error cause => rw [scan_raised readable found, scan_raised readable foundToo]
        | ok result =>
          by_cases goesOn : result.passed = true ∨ stopsEarly = false
          · rw [scan_checked readable found goesOn, scan_checked readable foundToo goesOn]
            exact inductionHypothesis (report.add file result) next otherNext
          · obtain ⟨failed, early⟩ : result.passed = false ∧ stopsEarly = true := by
              simpa using goesOn
            rw [scan_stopped readable found failed early,
              scan_stopped readable foundToo failed early]

/-- Putting a value under a key leaves some entry. -/
theorem putEntry_ne_nil {κ ν : Type} [DecidableEq κ] (key : κ) (value : ν)
    (entries : List (κ × ν)) : putEntry key value entries ≠ [] := by
  cases entries with
  | nil => simp [putEntry]
  | cons entry rest =>
    unfold putEntry
    split <;> simp

/-- After a result, no file has failed if none had and the result is that this one passed. -/
theorem Report.add_failed_eq_nil (report : Report) (file : String) (result : FileResult) :
    (report.add file result).failed = [] ↔ report.failed = [] ∧ result.passed = true := by
  unfold Report.add
  by_cases passed : result.passed = true
  · simp [passed]
  · simp [passed, putEntry_ne_nil]

variable {selects : String → Except ε Bool}
  {check : String → ExceptT ε (StateM σ) FileResult} {stopsEarly : Bool}
  {files examined : List String} {applied : List (String × FileResult)} {report last : Report}
  {state final : σ}

/-- No file failed exactly if each result says that its file passed. -/
theorem Scans.failed_eq_nil_iff
    (scans : Scans selects check stopsEarly files report state examined applied last final) :
    last.failed = [] ↔ report.failed = [] ∧ ∀ entry ∈ applied, entry.2.passed = true := by
  induction scans with
  | done report state => simp
  | ignored unselected tail inductionHypothesis => exact inductionHypothesis
  | checked selected found goesOn tail inductionHypothesis =>
    rw [inductionHypothesis, Report.add_failed_eq_nil, List.forall_mem_cons, and_assoc]
  | stopped selected found failed early =>
    have one := Report.add_failed_eq_nil
    simp [one, failed]

/-- A scan in which every file passed has looked at all files. -/
theorem Scans.examined_eq_files (passed : ∀ entry ∈ applied, entry.2.passed = true)
    (scans : Scans selects check stopsEarly files report state examined applied last final) :
    examined = files := by
  induction scans with
  | done report state => rfl
  | ignored unselected tail inductionHypothesis => rw [inductionHypothesis passed]
  | checked selected found goesOn tail inductionHypothesis =>
    rw [inductionHypothesis (List.forall_mem_cons.mp passed).2]
  | stopped selected found failed early =>
    have contrary := passed _ List.mem_cons_self
    rw [failed] at contrary
    cases contrary

/-- Each result was given by the check. -/
theorem Scans.result_found
    (scans : Scans selects check stopsEarly files report state examined applied last final) :
    ∀ entry ∈ applied, ∃ before after,
      (check entry.1).run.run before = (.ok entry.2, after) := by
  induction scans with
  | done report state => simp
  | ignored unselected tail inductionHypothesis => exact inductionHypothesis
  | checked selected found goesOn tail inductionHypothesis =>
    exact List.forall_mem_cons.mpr ⟨⟨_, _, found⟩, inductionHypothesis⟩
  | stopped selected found failed early =>
    exact List.forall_mem_cons.mpr ⟨⟨_, _, found⟩, List.forall_mem_nil _⟩

/-- If the check fails exactly the files with some property, then some file failed exactly if
    one of the selected files has it, whether or not the scan stops early. -/
theorem Scans.failed_ne_nil_iff {objects : String → Prop} (none : report.failed = [])
    (decided : ∀ file before result after, (check file).run.run before = (.ok result, after) →
      (result.passed = false ↔ objects file))
    (scans : Scans selects check stopsEarly files report state examined applied last final) :
    last.failed ≠ [] ↔ ∃ file ∈ files, selects file = .ok true ∧ objects file := by
  have verdict : ∀ entry ∈ applied, entry.2.passed = false ↔ objects entry.1 := by
    intro entry member
    obtain ⟨before, after, found⟩ := scans.result_found entry member
    exact decided entry.1 before entry.2 after found
  constructor
  · intro some
    obtain ⟨entry, member, fails⟩ : ∃ entry ∈ applied, entry.2.passed = false := by
      by_contra all
      apply some
      rw [scans.failed_eq_nil_iff]
      refine ⟨none, fun entry member => ?_⟩
      by_contra fails
      exact all ⟨entry, member, by simpa using fails⟩
    have checked : entry.1 ∈ examined.filter (isSelected selects) := by
      rw [← scans.applied_files]
      exact List.mem_map_of_mem member
    obtain ⟨looked, selected⟩ := List.mem_filter.mp checked
    have known := scans.selects_eq entry.1 looked
    rw [selected] at known
    exact ⟨entry.1, scans.examined_prefix.subset looked, known, (verdict entry member).mp fails⟩
  · rintro ⟨file, member, selected, objected⟩ nothing
    obtain ⟨-, passed⟩ := scans.failed_eq_nil_iff.mp nothing
    -- nothing stopped the scan, so it has come to the file
    have checked : file ∈ applied.map Prod.fst := by
      rw [scans.applied_files, scans.examined_eq_files passed]
      exact List.mem_filter.mpr ⟨member, by simp [isSelected, selected]⟩
    obtain ⟨entry, inside, rfl⟩ := List.mem_map.mp checked
    have fails := (verdict entry inside).mpr objected
    rw [passed entry inside] at fails
    cases fails

end LintReview
