import LintReview.Proofs.Checker.ScanRun
import Mathlib.Data.List.Nodup

/-!
# What a scan leaves in its report

A scan looks at its files from the first on: at all of them, or, if it stops early, at
those up to the first that fails. Each file that was looked at is in one of the three
collections of the report and no other file is in any. A file is ignored exactly if it is
not selected; the check is applied to each of the others once, in their order, and decides
between the other two collections.

The facts are read off the derivation of a scan, one induction each. Files must be
distinct: a repeated file would keep its first place and lose its first result.
-/

namespace LintReview

/-- The items up to the first that has the property, this one included. -/
def throughFirst {α : Type} (property : α → Bool) : List α → List α
  | [] => []
  | item :: rest => if property item then [item] else item :: throughFirst property rest

/-- Only what the property says of the items matters. -/
theorem throughFirst_congr {α : Type} {first second : α → Bool} {items : List α}
    (same : ∀ item ∈ items, first item = second item) :
    throughFirst first items = throughFirst second items := by
  induction items with
  | nil => rfl
  | cons item rest inductionHypothesis =>
    have others := inductionHypothesis fun other member =>
      same other (List.mem_cons_of_mem item member)
    simp only [throughFirst, same item List.mem_cons_self, others]

/-- The check was applied to the file, and the file failed. -/
def failedIn (applied : List (String × FileResult)) (file : String) : Bool :=
  applied.any fun entry => entry.1 = file && !entry.2.passed

/-- A file that the check was not applied to did not fail. -/
theorem failedIn_of_not_mem {applied : List (String × FileResult)} {file : String}
    (absent : file ∉ applied.map Prod.fst) : failedIn applied file = false := by
  rw [failedIn, List.any_eq_false]
  intro entry member
  have other : entry.1 ≠ file := by
    rintro rfl
    exact absent (List.mem_map_of_mem member)
  simp [other]

/-- The report has a result for the file. -/
def Report.Knows (report : Report) (file : String) : Prop :=
  file ∈ report.passed.map Prod.fst ∨ file ∈ report.failed.map Prod.fst

@[simp]
theorem Report.add_ignored (report : Report) (file : String) (result : FileResult) :
    (report.add file result).ignored = report.ignored := by
  unfold Report.add
  split <;> rfl

@[simp]
theorem Report.add_stoppedEarly (report : Report) (file : String) (result : FileResult) :
    (report.add file result).stoppedEarly = report.stoppedEarly := by
  unfold Report.add
  split <;> rfl

/-- The result for a new file is added at the end of the collection that it decides on. -/
theorem Report.add_new {report : Report} {file : String} (result : FileResult)
    (new : ¬ report.Knows file) :
    (report.add file result).passed =
        report.passed ++ [(file, result)].filter (fun entry => entry.2.passed) ∧
      (report.add file result).failed =
        report.failed ++ [(file, result)].filter (fun entry => !entry.2.passed) := by
  obtain ⟨notPassed, notFailed⟩ := not_or.mp new
  unfold Report.add
  cases passed : result.passed with
  | true => simp [passed, putEntry_new result notPassed]
  | false => simp [passed, putEntry_new result notFailed]

/-- After a result, the report knows the file besides those that it knew. -/
theorem Report.knows_add {report : Report} {file other : String} {result : FileResult}
    (known : (report.add file result).Knows other) : other = file ∨ report.Knows other := by
  unfold Report.add at known
  split at known
  · rcases known with passed | failed
    · exact (mem_keys_putEntry passed).imp_right Or.inl
    · exact Or.inr (Or.inr failed)
  · rcases known with passed | failed
    · exact Or.inr (Or.inl passed)
    · exact (mem_keys_putEntry failed).imp_right Or.inr

section Facts

variable {ε σ : Type} {selects : String → Except ε Bool}
  {check : String → ExceptT ε (StateM σ) FileResult} {stopsEarly : Bool}
  {files examined : List String} {applied : List (String × FileResult)} {report last : Report}
  {state final : σ}

/-- The files that are looked at come first among the files. -/
theorem Scans.examined_prefix
    (scans : Scans selects check stopsEarly files report state examined applied last final) :
    examined <+: files := by
  induction scans with
  | done report state => exact List.prefix_refl []
  | ignored unselected tail inductionHypothesis =>
    exact (List.prefix_cons_inj _).mpr inductionHypothesis
  | checked selected found goesOn tail inductionHypothesis =>
    exact (List.prefix_cons_inj _).mpr inductionHypothesis
  | stopped selected found failed early =>
    exact (List.prefix_cons_inj _).mpr List.nil_prefix

/-- Of every file that is looked at, it is known whether it is selected. -/
theorem Scans.selects_eq
    (scans : Scans selects check stopsEarly files report state examined applied last final) :
    ∀ file ∈ examined, selects file = .ok (isSelected selects file) := by
  have known {file : String} {selected : Bool} (read : selects file = .ok selected) :
      selects file = .ok (isSelected selects file) := by
    simp [isSelected, read]
  induction scans with
  | done report state => simp
  | ignored unselected tail inductionHypothesis =>
    exact List.forall_mem_cons.mpr ⟨known unselected, inductionHypothesis⟩
  | checked selected found goesOn tail inductionHypothesis =>
    exact List.forall_mem_cons.mpr ⟨known selected, inductionHypothesis⟩
  | stopped selected found failed early =>
    exact List.forall_mem_cons.mpr ⟨known selected, by simp⟩

/-- The check is applied to the selected files among those looked at, once each and in
    their order. -/
theorem Scans.applied_files
    (scans : Scans selects check stopsEarly files report state examined applied last final) :
    applied.map Prod.fst = examined.filter (isSelected selects) := by
  induction scans with
  | done report state => rfl
  | ignored unselected tail inductionHypothesis =>
    simpa [isSelected, unselected] using inductionHypothesis
  | checked selected found goesOn tail inductionHypothesis =>
    simpa [isSelected, selected] using inductionHypothesis
  | stopped selected found failed early => simp [isSelected, selected]

/-- The check is applied to no other file than the given ones. -/
theorem Scans.not_applied {file : String} (absent : file ∉ files)
    (scans : Scans selects check stopsEarly files report state examined applied last final) :
    file ∉ applied.map Prod.fst := by
  rw [scans.applied_files]
  intro member
  exact absent (scans.examined_prefix.subset (List.mem_filter.mp member).1)

/-- The files that are looked at and not selected are ignored, in their order. -/
theorem Scans.ignored_eq
    (scans : Scans selects check stopsEarly files report state examined applied last final) :
    last.ignored = report.ignored ++ examined.filter fun file => !isSelected selects file := by
  induction scans with
  | done report state => simp
  | ignored unselected tail inductionHypothesis =>
    simpa [isSelected, unselected, Report.ignore] using inductionHypothesis
  | checked selected found goesOn tail inductionHypothesis =>
    simpa [isSelected, selected] using inductionHypothesis
  | stopped selected found failed early => simp [isSelected, selected]

/-- Each result goes into the collection that it decides on, in the order of the files. -/
theorem Scans.results_eq (distinct : files.Nodup) (new : ∀ file ∈ files, ¬ report.Knows file)
    (scans : Scans selects check stopsEarly files report state examined applied last final) :
    last.passed = report.passed ++ applied.filter (fun entry => entry.2.passed) ∧
      last.failed = report.failed ++ applied.filter (fun entry => !entry.2.passed) := by
  induction scans with
  | done report state => simp
  | ignored unselected tail inductionHypothesis =>
    exact inductionHypothesis distinct.tail fun other member =>
      new other (List.mem_cons_of_mem _ member)
  | @checked file rest report _ result _ _ applied _ _ selected found goesOn tail
      inductionHypothesis =>
    have absent : file ∉ rest := (List.nodup_cons.mp distinct).1
    have othersNew : ∀ other ∈ rest, ¬ (report.add file result).Knows other := by
      intro other member known
      rcases Report.knows_add known with rfl | before
      · exact absent member
      · exact new other (List.mem_cons_of_mem file member) before
    obtain ⟨addedPassed, addedFailed⟩ := Report.add_new result (new file List.mem_cons_self)
    obtain ⟨passed, failed⟩ := inductionHypothesis distinct.tail othersNew
    rw [passed, failed, addedPassed, addedFailed, List.append_assoc, List.append_assoc,
      ← List.filter_append, ← List.filter_append, List.singleton_append]
    exact ⟨rfl, rfl⟩
  | @stopped file _ _ _ result _ selected found failed early =>
    exact Report.add_new result (new file List.mem_cons_self)

/-- A scan that does not stop early looks at all files, any other at those up to the first
    that fails. -/
theorem Scans.examined_eq (distinct : files.Nodup)
    (scans : Scans selects check stopsEarly files report state examined applied last final) :
    examined = if stopsEarly then throughFirst (failedIn applied) files else files := by
  induction scans with
  | done report state => simp [throughFirst]
  | @ignored file rest _ _ _ applied _ _ unselected tail inductionHypothesis =>
    have unapplied : file ∉ applied.map Prod.fst :=
      tail.not_applied (List.nodup_cons.mp distinct).1
    rw [inductionHypothesis distinct.tail]
    cases stopsEarly with
    | false => rfl
    | true => simp [throughFirst, failedIn_of_not_mem unapplied]
  | @checked file rest _ _ result _ _ applied _ _ selected found goesOn tail
      inductionHypothesis =>
    have unapplied : file ∉ applied.map Prod.fst :=
      tail.not_applied (List.nodup_cons.mp distinct).1
    rw [inductionHypothesis distinct.tail]
    cases stopsEarly with
    | false => rfl
    | true =>
      have passed : result.passed = true := by simpa using goesOn
      have unaffected : ∀ other ∈ rest,
          failedIn ((file, result) :: applied) other = failedIn applied other := by
        intro other _
        simp [failedIn, passed]
      have head : failedIn ((file, result) :: applied) file = false := by
        rw [← failedIn_of_not_mem unapplied]
        simp [failedIn, passed]
      simp [throughFirst, head, throughFirst_congr unaffected]
  | stopped selected found failed early => simp [early, throughFirst, failedIn, failed]

/-- A scan that does not stop early looks at all files. -/
theorem Scans.examined_all (distinct : files.Nodup) (late : stopsEarly = false)
    (scans : Scans selects check stopsEarly files report state examined applied last final) :
    examined = files := by
  rw [scans.examined_eq distinct, late, if_neg Bool.false_ne_true]

/-- The report says that the scan stopped early exactly if it was to do so and some file
    failed. -/
theorem Scans.stopped_iff
    (scans : Scans selects check stopsEarly files report state examined applied last final) :
    last.stoppedEarly = true ↔ report.stoppedEarly = true ∨
      stopsEarly = true ∧ ∃ entry ∈ applied, entry.2.passed = false := by
  induction scans with
  | done report state => simp
  | ignored unselected tail inductionHypothesis =>
    simpa [Report.ignore] using inductionHypothesis
  | checked selected found goesOn tail inductionHypothesis =>
    rw [inductionHypothesis, Report.add_stoppedEarly]
    rcases goesOn with passed | late
    · simp [passed]
    · simp [late]
  | stopped selected found failed early => simp [early, failed]

/-- If a scan that is to stop early finds a file that failed, it is the only one, and the
    last that is looked at. -/
theorem Scans.failed_last (early : stopsEarly = true)
    (failed : ∃ entry ∈ applied, entry.2.passed = false)
    (scans : Scans selects check stopsEarly files report state examined applied last final) :
    ∃ entry, applied.filter (fun entry => !entry.2.passed) = [entry] ∧
      examined.getLast? = some entry.1 := by
  induction scans with
  | done report state => simp at failed
  | ignored unselected tail inductionHypothesis =>
    obtain ⟨entry, only, lastFile⟩ := inductionHypothesis failed
    exact ⟨entry, only, by simp [List.getLast?_cons, lastFile]⟩
  | @checked _ _ _ _ result _ _ applied _ _ selected found goesOn tail inductionHypothesis =>
    have passed : result.passed = true := goesOn.resolve_right (by simp [early])
    have later : ∃ entry ∈ applied, entry.2.passed = false := by
      simpa [passed] using failed
    obtain ⟨entry, only, lastFile⟩ := inductionHypothesis later
    refine ⟨entry, ?_, by simp [List.getLast?_cons, lastFile]⟩
    simpa [passed] using only
  | @stopped file _ _ _ result _ selected found fails early =>
    exact ⟨(file, result), by simp [fails], rfl⟩

/-- A scan that fails altogether has come to its end on the files before the one where it
    failed, without stopping early there. -/
theorem scan_interrupted {cause : ε}
    (ran : (scan selects check stopsEarly files report).run state =
      ((last, .error cause), final)) :
    ∃ before file later applied middle, files = before ++ file :: later ∧
      Scans selects check stopsEarly before report state before applied last middle ∧
      last.stoppedEarly = report.stoppedEarly ∧
      (selects file = .error cause ∧ final = middle ∨
        selects file = .ok true ∧ (check file).run.run middle = (.error cause, final)) := by
  induction files generalizing report state with
  | nil => cases ran
  | cons file rest inductionHypothesis =>
    cases readable : selects file with
    | error problem =>
      rw [scan_unreadable readable] at ran
      cases ran
      exact ⟨[], file, rest, [], _, rfl, .done _ _, rfl, .inl ⟨readable, rfl⟩⟩
    | ok selected =>
      cases selected with
      | false =>
        rw [scan_ignored readable] at ran
        obtain ⟨before, other, later, applied, middle, rfl, scans, unstopped, failure⟩ :=
          inductionHypothesis ran
        exact ⟨file :: before, other, later, applied, middle, rfl, .ignored readable scans,
          unstopped, failure⟩
      | true =>
        rcases found : (check file).run.run state with ⟨outcome, next⟩
        cases outcome with
        | error problem =>
          rw [scan_raised readable found] at ran
          cases ran
          exact ⟨[], file, rest, [], _, rfl, .done _ _, rfl, .inr ⟨readable, found⟩⟩
        | ok result =>
          by_cases goesOn : result.passed = true ∨ stopsEarly = false
          · rw [scan_checked readable found goesOn] at ran
            obtain ⟨before, other, later, applied, middle, rfl, scans, unstopped, failure⟩ :=
              inductionHypothesis ran
            rw [Report.add_stoppedEarly] at unstopped
            exact ⟨file :: before, other, later, (file, result) :: applied, middle, rfl,
              .checked readable found goesOn scans, unstopped, failure⟩
          · obtain ⟨failed, early⟩ : result.passed = false ∧ stopsEarly = true := by
              simpa using goesOn
            rw [scan_stopped readable found failed early] at ran
            cases ran

/-- A scan that comes to its end adds results for the given files only. -/
theorem Scans.knows {file : String}
    (scans : Scans selects check stopsEarly files report state examined applied last final)
    (known : last.Knows file) : report.Knows file ∨ file ∈ files := by
  induction scans with
  | done report state => exact .inl known
  | ignored unselected tail inductionHypothesis =>
    exact (inductionHypothesis known).imp_right (List.mem_cons_of_mem _)
  | checked selected found goesOn tail inductionHypothesis =>
    rcases inductionHypothesis known with before | later
    · exact (Report.knows_add before).symm.imp_right fun same => List.mem_cons.mpr (.inl same)
    · exact .inr (List.mem_cons_of_mem _ later)
  | stopped selected found failed early =>
    exact (Report.knows_add known).symm.imp_right fun same => List.mem_cons.mpr (.inl same)

/-- A scan adds results for the given files only, also if it fails altogether. -/
theorem scan_knows {file : String} {ending : Except ε Unit}
    (ran : (scan selects check stopsEarly files report).run state = ((last, ending), final))
    (known : last.Knows file) : report.Knows file ∨ file ∈ files := by
  cases ending with
  | ok =>
    obtain ⟨examined, applied, scans⟩ := scans_of_run ran
    exact scans.knows known
  | error cause =>
    obtain ⟨before, other, later, applied, middle, rfl, scans, -⟩ := scan_interrupted ran
    exact (scans.knows known).imp_right (List.mem_append_left _)

end Facts

/-- What a scan that starts with an empty report and comes to its end has done: the files
    that it looked at, the results of the check on those that it was applied to, and the
    report. -/
structure Partition (selected : String → Bool) (stopsEarly : Bool) (files examined : List String)
    (applied : List (String × FileResult)) (report : Report) : Prop where
  /-- All files are looked at, or those up to the first that fails. -/
  examined_eq : examined = if stopsEarly then throughFirst (failedIn applied) files else files
  /-- The check is applied to the selected ones, once each and in order. -/
  applied_eq : applied.map Prod.fst = examined.filter selected
  passed_eq : report.passed = applied.filter fun entry => entry.2.passed
  failed_eq : report.failed = applied.filter fun entry => !entry.2.passed
  ignored_eq : report.ignored = examined.filter fun file => !selected file
  /-- A file that is looked at is in one collection, once; no other file is in any. -/
  one_place : ∀ file,
    (report.passed.map Prod.fst ++ report.failed.map Prod.fst ++ report.ignored).count file =
      if file ∈ examined then 1 else 0
  /-- Each collection keeps the order of the files. -/
  in_order : (report.passed.map Prod.fst).Sublist examined ∧
    (report.failed.map Prod.fst).Sublist examined ∧ report.ignored.Sublist examined
  stopped_iff : report.stoppedEarly = true ↔
    stopsEarly = true ∧ ∃ file ∈ examined, failedIn applied file = true
  stopped_last : report.stoppedEarly = true →
    ∃ entry, report.failed = [entry] ∧ examined.getLast? = some entry.1

/-- The three collections of a report hold what a list holds that they are taken from. -/
theorem collections_perm {selected : String → Bool} {examined : List String}
    {applied : List (String × FileResult)}
    (applied_eq : applied.map Prod.fst = examined.filter selected) :
    ((applied.filter fun entry => entry.2.passed).map Prod.fst ++
        (applied.filter fun entry => !entry.2.passed).map Prod.fst ++
        examined.filter fun file => !selected file).Perm examined := by
  have checked : ((applied.filter fun entry => entry.2.passed).map Prod.fst ++
      (applied.filter fun entry => !entry.2.passed).map Prod.fst).Perm
        (examined.filter selected) := by
    rw [← List.map_append, ← applied_eq]
    exact (List.filter_append_perm (fun entry => entry.2.passed) applied).map Prod.fst
  exact (checked.append_right _).trans (List.filter_append_perm selected examined)

/-- If the first with the property is never met, all items are taken. -/
theorem throughFirst_eq_self {α : Type} {property : α → Bool} {items : List α}
    (none : ∀ item ∈ throughFirst property items, property item = false) :
    throughFirst property items = items := by
  induction items with
  | nil => rfl
  | cons item rest inductionHypothesis =>
    rw [throughFirst] at none ⊢
    by_cases found : property item = true
    · rw [if_pos found] at none
      simp [none item List.mem_cons_self] at found
    · rw [if_neg found] at none ⊢
      rw [inductionHypothesis fun other member => none other (List.mem_cons_of_mem item member)]

/-- The collections of a partition hold as many files as were looked at. -/
theorem Partition.total_eq {selected : String → Bool} {stopsEarly : Bool}
    {files examined : List String} {applied : List (String × FileResult)} {report : Report}
    (partition : Partition selected stopsEarly files examined applied report) :
    report.passed.length + report.failed.length + report.ignored.length = examined.length := by
  have same := (collections_perm partition.applied_eq).length_eq
  rw [← partition.passed_eq, ← partition.failed_eq, ← partition.ignored_eq] at same
  simpa [Nat.add_assoc] using same

/-- Unless the scan stopped early, all files were looked at. -/
theorem Partition.examined_all {selected : String → Bool} {stopsEarly : Bool}
    {files examined : List String} {applied : List (String × FileResult)} {report : Report}
    (partition : Partition selected stopsEarly files examined applied report)
    (ranOn : report.stoppedEarly = false) : examined = files := by
  have looked := partition.examined_eq
  cases stopsEarly with
  | false => exact looked
  | true =>
    rw [if_pos rfl] at looked
    have fine : ∀ file ∈ examined, failedIn applied file = false := by
      intro file member
      by_contra failed
      have stopped := partition.stopped_iff.mpr ⟨rfl, file, member, by simpa using failed⟩
      simp [ranOn] at stopped
    rw [looked] at fine ⊢
    exact throughFirst_eq_self fine

/-- A derivation from an empty report, over distinct files, leaves a partition. -/
theorem Scans.partition {ε σ : Type} {selects : String → Except ε Bool}
    {check : String → ExceptT ε (StateM σ) FileResult} {stopsEarly : Bool}
    {files examined : List String} {applied : List (String × FileResult)} {last : Report}
    {state final : σ} (distinct : files.Nodup)
    (scans : Scans selects check stopsEarly files .empty state examined applied last final) :
    Partition (isSelected selects) stopsEarly files examined applied last := by
  have new : ∀ file ∈ files, ¬ Report.empty.Knows file := by
    intro file _ known
    simp [Report.Knows, Report.empty] at known
  obtain ⟨passed, failed⟩ := scans.results_eq distinct new
  have ignored := scans.ignored_eq
  simp only [Report.empty, List.nil_append] at passed failed ignored
  have applied_eq := scans.applied_files
  have unrepeated : examined.Nodup := distinct.sublist scans.examined_prefix.sublist
  have stopped : last.stoppedEarly = true ↔
      stopsEarly = true ∧ ∃ entry ∈ applied, entry.2.passed = false := by
    simpa [Report.empty] using scans.stopped_iff
  have keys : ∀ property : String × FileResult → Bool,
      ((applied.filter property).map Prod.fst).Sublist examined := by
    intro property
    refine (List.filter_sublist.map Prod.fst).trans ?_
    rw [applied_eq]
    exact List.filter_sublist
  refine ⟨scans.examined_eq distinct, applied_eq, passed, failed, ignored, ?_, ?_, ?_, ?_⟩
  · intro file
    rw [passed, failed, ignored, (collections_perm applied_eq).count_eq file]
    exact unrepeated.count
  · rw [passed, failed, ignored]
    exact ⟨keys _, keys _, List.filter_sublist⟩
  · rw [stopped]
    constructor
    · rintro ⟨early, entry, member, fails⟩
      have looked : entry.1 ∈ examined := by
        have inside : entry.1 ∈ applied.map Prod.fst := List.mem_map_of_mem member
        rw [applied_eq] at inside
        exact (List.mem_filter.mp inside).1
      refine ⟨early, entry.1, looked, ?_⟩
      rw [failedIn, List.any_eq_true]
      exact ⟨entry, member, by simp [fails]⟩
    · rintro ⟨early, file, _, fails⟩
      rw [failedIn, List.any_eq_true] at fails
      obtain ⟨entry, member, same⟩ := fails
      rw [Bool.and_eq_true, Bool.not_eq_true'] at same
      exact ⟨early, entry, member, same.2⟩
  · intro ended
    obtain ⟨early, fails⟩ := stopped.mp ended
    rw [failed]
    exact scans.failed_last early fails

/-- Scanning distinct files with an empty report. If the scan comes to its end, it has
    looked at a beginning of the files, and the report is a partition of it; the check,
    made to note its applications, notes exactly those of the partition. If the scan fails
    altogether at a file, the report is the one of a scan of the files before, which comes
    to its end without stopping early. -/
theorem scan_partitions {σ : Type} (options : Table)
    (check : String → ExceptT Failure (StateM σ) FileResult) {files : List String}
    (distinct : files.Nodup) {state final : σ} {last : Report} {ending : Except Failure Unit}
    (ran : (scan (Options.selects options) check (Options.stopsEarly options) files .empty).run
      state = ((last, ending), final)) :
    match ending with
    | .ok () => ∃ examined applied,
        Partition (isSelected (Options.selects options)) (Options.stopsEarly options)
          files examined applied last ∧
        (∀ file ∈ examined, Options.selects options file =
          .ok (isSelected (Options.selects options) file)) ∧
        (scan (Options.selects options) (noting check) (Options.stopsEarly options) files
          .empty).run ([], state) = ((last, .ok ()), (notesOf applied, final))
    | .error cause => ∃ before file later middle, files = before ++ file :: later ∧
        (scan (Options.selects options) check (Options.stopsEarly options) before .empty).run
          state = ((last, .ok ()), middle) ∧
        last.stoppedEarly = false ∧
        (Options.selects options file = .error cause ∧ final = middle ∨
          Options.selects options file = .ok true ∧
            (check file).run.run middle = (.error cause, final)) := by
  cases ending with
  | ok =>
    obtain ⟨examined, applied, scans⟩ := scans_of_run ran
    have noted := (scans.noting []).run
    rw [List.nil_append] at noted
    exact ⟨examined, applied, scans.partition distinct, scans.selects_eq, noted⟩
  | error cause =>
    obtain ⟨before, file, later, applied, middle, split, scans, unstopped, failure⟩ :=
      scan_interrupted ran
    exact ⟨before, file, later, middle, split, scans.run, unstopped, failure⟩

/-- Options that select the files of one kind and stop at the first that fails. -/
def hastyOptions : Table :=
  [(.text "source_iregex", .text ".*[.]cpp"), (.text "fast_exit", .flag true)]

/-- A check that counts its applications, and that one file fails. -/
def countingCheck (file : String) : ExceptT Failure (StateM Nat) FileResult := do
  modify (· + 1)
  return { file, passed := file ≠ "b.cpp" }

/-- The files of the scan below. -/
def hastyFiles : List String := ["a.h", "a.cpp", "b.cpp", "c.cpp"]

/-- The report of the scan below. -/
def hastyReport : Report where
  passed := [("a.cpp", { file := "a.cpp", passed := true })]
  failed := [("b.cpp", { file := "b.cpp", passed := false })]
  ignored := ["a.h"]
  stoppedEarly := true

/-- A scan of four files that ignores the first and stops at the third: the fourth is in no
    collection, and the check was applied twice. -/
theorem scan_partitions_hastily :
    hastyFiles.Nodup ∧
    (scan (Options.selects hastyOptions) countingCheck (Options.stopsEarly hastyOptions)
      hastyFiles .empty).run 0 = ((hastyReport, .ok ()), 2) ∧
    ∃ examined applied,
      Partition (isSelected (Options.selects hastyOptions)) (Options.stopsEarly hastyOptions)
        hastyFiles examined applied hastyReport ∧
      (∀ file ∈ examined, Options.selects hastyOptions file =
        .ok (isSelected (Options.selects hastyOptions) file)) ∧
      (scan (Options.selects hastyOptions) (noting countingCheck)
        (Options.stopsEarly hastyOptions) hastyFiles .empty).run ([], 0) =
        ((hastyReport, .ok ()), (notesOf applied, 2)) := by
  have distinct : hastyFiles.Nodup := by decide
  have ran : (scan (Options.selects hastyOptions) countingCheck (Options.stopsEarly hastyOptions)
      hastyFiles .empty).run 0 = ((hastyReport, .ok ()), 2) := by rfl
  exact ⟨distinct, ran, scan_partitions hastyOptions countingCheck distinct ran⟩

end LintReview
