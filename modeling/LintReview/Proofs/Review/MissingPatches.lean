import LintReview.Proofs.Review.Anchors
import LintReview.Proofs.Text.Limits

/-!
# Files without a patch

A checker is asked for its comments on a change. If the change does not have every file that
failed, there are none: the failure names the first of those that it does not have, in the order
in which they were recorded (`commentsOf_eq_error_iff`). Otherwise each comment stands on a file
that failed.
-/

namespace LintReview

/-- The change has a patch for a path exactly if the path is one of its keys. -/
theorem Diff.Change.isSome_find?_iff (change : Change) (path : String) :
    (change.find? path).isSome = true ↔ path ∈ change.map Prod.fst := by
  unfold find?
  induction change with
  | nil => simp
  | cons entry rest inductionHypothesis =>
    obtain ⟨known, patch⟩ := entry
    rw [lookup_cons_eq, List.map_cons, List.mem_cons]
    by_cases same : path = known
    · simp [same]
    · simp [same, inductionHypothesis]

/-- The change has every file that failed in the checker. -/
def Checker.Covered (checker : Checker) (change : Diff.Change) : Prop :=
  ∀ entry ∈ checker.report.failed, entry.1 ∈ change.map Prod.fst

namespace Review

/-- The file is the first among files that the change does not have. -/
def FirstMissing (change : Diff.Change) (files : List String) (file : String) : Prop :=
  ∃ before after, files = before ++ file :: after ∧
    (∀ other ∈ before, other ∈ change.map Prod.fst) ∧ file ∉ change.map Prod.fst

section Files

variable {change : Diff.Change} {checker : Checker} {file other : String} {rest : List String}

/-- If the change does not have the first file, that one is the first missing. -/
theorem firstMissing_of_absent (absent : file ∉ change.map Prod.fst) :
    FirstMissing change (file :: rest) other ↔ other = file := by
  constructor
  · rintro ⟨before, after, split, known, -⟩
    cases before with
    | nil => exact (List.cons.inj split).1.symm
    | cons head tail =>
      obtain ⟨rfl, -⟩ := List.cons.inj split
      exact absurd (known file List.mem_cons_self) absent
  · rintro rfl
    exact ⟨[], rest, rfl, List.forall_mem_nil _, absent⟩

/-- If the change has the first file, the first missing is among the others. -/
theorem firstMissing_of_present (present : file ∈ change.map Prod.fst) :
    FirstMissing change (file :: rest) other ↔ FirstMissing change rest other := by
  constructor
  · rintro ⟨before, after, split, known, absent⟩
    cases before with
    | nil =>
      obtain ⟨rfl, -⟩ := List.cons.inj split
      exact absurd present absent
    | cons head tail =>
      obtain ⟨rfl, others⟩ := List.cons.inj split
      exact ⟨tail, after, others, fun earlier member => known earlier (.tail _ member), absent⟩
  · rintro ⟨before, after, rfl, known, absent⟩
    exact ⟨file :: before, after, rfl, List.forall_mem_cons.mpr ⟨present, known⟩, absent⟩

/-- There is a first missing file exactly if some file is missing. -/
theorem exists_firstMissing_iff (change : Diff.Change) (files : List String) :
    (∃ file, FirstMissing change files file) ↔ ∃ file ∈ files, file ∉ change.map Prod.fst := by
  induction files with
  | nil =>
    constructor
    · rintro ⟨file, before, after, split, -⟩
      simp at split
    · rintro ⟨file, member, -⟩
      cases member
  | cons file rest inductionHypothesis =>
    by_cases present : file ∈ change.map Prod.fst
    · simp only [firstMissing_of_present present, inductionHypothesis, List.exists_mem_cons_iff,
        present, not_true_eq_false, false_or]
    · simp only [firstMissing_of_absent present, exists_eq, List.exists_mem_cons_iff, present,
        not_false_eq_true, true_or]

/-- Asking for comments on files that failed ends in a failure exactly if the change does not
    have all of them, and the failure names the first that it does not have. -/
theorem commentsOnFiles_eq_error_iff {entries : List (String × FileResult)} {cause : Failure} :
    commentsOnFiles checker change entries = .error cause ↔
      ∃ file, FirstMissing change (entries.map Prod.fst) file ∧
        cause = .missingPatch file checker.title := by
  induction entries with
  | nil =>
    constructor
    · intro failed
      cases failed
    · rintro ⟨file, ⟨before, after, split, -⟩, -⟩
      simp at split
  | cons entry rest inductionHypothesis =>
    obtain ⟨file, result⟩ := entry
    have known := change.isSome_find?_iff file
    rw [commentsOnFiles, List.map_cons]
    cases found : change.find? file with
    | none =>
      have absent : file ∉ change.map Prod.fst := by
        rw [← known, found]
        exact Bool.false_ne_true
      simp only [firstMissing_of_absent absent, exists_eq_left]
      constructor
      · intro same
        exact (Except.error.inj same).symm
      · rintro rfl
        rfl
    | some patch =>
      have present : file ∈ change.map Prod.fst := by
        rw [← known, found]
        rfl
      simp only [firstMissing_of_present present, ← inductionHypothesis]
      -- the comments on the other files decide whether there is a failure
      cases commentsOnFiles checker change rest with
      | error other => exact Iff.rfl
      | ok others => exact ⟨by rintro ⟨⟩, by rintro ⟨⟩⟩

/-- Asking a checker for its comments ends in a failure exactly if a file that failed has no
    patch, and the failure names the first of these files. -/
theorem commentsOf_eq_error_iff (change : Diff.Change) (checker : Checker) (cause : Failure) :
    commentsOf change checker = .error cause ↔
      ∃ file, FirstMissing change (checker.report.failed.map Prod.fst) file ∧
        cause = .missingPatch file checker.title :=
  commentsOnFiles_eq_error_iff

example : commentsOf [] twoFindings = .error (.missingPatch "a.cpp" "clang-tidy") := by rfl

/-- A comment on a finding in a file stands on this file. -/
theorem commentOn?_path {patch : Diff.Patch} {diagnostic : Diagnostic}
    {comment : Github.InlineComment}
    (made : commentOn? checker file patch diagnostic = some comment) : comment.path = file := by
  unfold commentOn? at made
  split at made
  · obtain ⟨position, -, rfl⟩ := Option.map_eq_some_iff.mp made
    rfl
  · cases made

/-- The comments on a file stand on this file, and the change has it. -/
theorem mem_commentsOnFile {entry : String × FileResult} {comment : Github.InlineComment}
    (member : comment ∈ commentsOnFile checker change entry) :
    comment.path = entry.1 ∧ entry.1 ∈ change.map Prod.fst := by
  unfold commentsOnFile at member
  split at member
  · cases member
  · next patch found =>
    obtain ⟨diagnostic, -, made⟩ := List.mem_filterMap.mp member
    refine ⟨commentOn?_path made, ?_⟩
    rw [← change.isSome_find?_iff, found]
    rfl

end Files

/-- If the change has every file that failed in the checkers, they make their comments, and each
    comment stands on a file of the change. -/
theorem comments_of_covered {change : Diff.Change} {checkers : List Checker}
    (covered : ∀ checker ∈ checkers, checker.Covered change) :
    ∃ comments, Review.comments change checkers = .ok comments ∧
      ∀ comment ∈ comments, comment.path ∈ change.map Prod.fst := by
  have each (checker : Checker) (member : checker ∈ checkers) :
      commentsOf change checker =
        .ok (checker.report.failed.flatMap (commentsOnFile checker change)) :=
    commentsOnFiles_eq fun entry failed =>
      (change.isSome_find?_iff entry.1).mpr (covered checker member entry failed)
  refine ⟨_, by rw [Review.comments, mapM_eq_ok each]; rfl, ?_⟩
  intro comment member
  obtain ⟨made, madeBy, inside⟩ := List.mem_flatten.mp member
  obtain ⟨checker, -, rfl⟩ := List.mem_map.mp madeBy
  obtain ⟨entry, -, onFile⟩ := List.mem_flatMap.mp inside
  obtain ⟨path, known⟩ := mem_commentsOnFile onFile
  exact path ▸ known

end Review

end LintReview
