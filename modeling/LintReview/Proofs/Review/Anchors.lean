import LintReview.Proofs.Diff.Positions
import LintReview.Review

/-!
# Where comments stand

A comment is meant to stand on the line that shows the row of its diagnostic. If every
file that failed is in the change, the comments can be made, and each is anchored through
the first hunk that covers the row. On a row that this hunk shows, the comment stands on
the row's own line if no removed line stands before it in the hunk. The row after the
hunk's last one is commented on as well, although no line of the hunk shows it; if the hunk
removes nothing, such a comment stands directly below the hunk.
-/

namespace LintReview.Review

open Diff

/-- The comments on one file that failed: none if the change does not have it. -/
def commentsOnFile (checker : Checker) (change : Change) (entry : String × FileResult) :
    List Github.InlineComment :=
  match change.find? entry.1 with
  | none => []
  | some patch => entry.2.diagnostics.filterMap (commentOn? checker entry.1 patch)

/-- If the change has every file that failed, the comments are those on the files, one
    file after the other. -/
theorem commentsOnFiles_eq {checker : Checker} {change : Change}
    {entries : List (String × FileResult)}
    (known : ∀ entry ∈ entries, (change.find? entry.1).isSome = true) :
    commentsOnFiles checker change entries =
      .ok (entries.flatMap (commentsOnFile checker change)) := by
  induction entries with
  | nil => rfl
  | cons entry rest inductionHypothesis =>
    obtain ⟨file, result⟩ := entry
    have others := inductionHypothesis fun other member =>
      known other (List.mem_cons_of_mem _ member)
    obtain ⟨patch, found⟩ := Option.isSome_iff_exists.mp (known (file, result) List.mem_cons_self)
    simp only at found
    simp only [commentsOnFiles, found, others, bind, Except.bind, pure, Except.pure,
      List.flatMap_cons, commentsOnFile]

/-- The position is the number of a line that the new file has, and the line shows the
    row. -/
def ShowsRow (hunks : List Hunk) (position row : Int) : Prop :=
  ∃ shown, lineAt? hunks position = some shown ∧ shown.line.kind.inNew = true ∧
    shown.row = some row

/-- How a comment on a row is anchored in the hunks of a file. -/
inductive Anchored (hunks : List Hunk) (row position : Int) : Prop where
  /-- The first hunk that covers the row shows it. With no removed line before the row's
      line in this hunk, the comment stands on that line. -/
  | shown (place : LinePlace hunks)
      (first : ∀ other ∈ place.earlier, other.span.covers row = false)
      (shows : place.line.kind.inNew = true) (same : place.row = row)
      (within : 1 ≤ position ∧ position ≤ lineTotal hunks)
      (lands : place.removedBefore = 0 → ShowsRow hunks position row)
  /-- The row is the one after the last row of the first hunk that covers it. With no
      removed line in this hunk, the comment stands directly below the hunk's last line. -/
  | below (earlier : List Hunk) (hunk : Hunk) (later : List Hunk)
      (split : hunks = earlier ++ hunk :: later)
      (first : ∀ other ∈ earlier, other.span.covers row = false)
      (next : row = hunk.newStart + hunk.newLines)
      (within : 1 ≤ position ∧ position ≤ lineTotal hunks + 1)
      (lands : removedLines hunk.body = 0 → position = lineTotal (earlier ++ [hunk]) + 1)

/-- Every position of a row in measured hunks anchors the row.

    The position is found through the first hunk that covers the row. Either the row is
    within the hunk's length, and then it stands at a place in the hunk, or it is the row
    after. -/
theorem anchored_of_position {hunks : List Hunk} {row position : Int}
    (measured : ∀ hunk ∈ hunks, hunk.Measured)
    (mapped : position? (hunks.map Hunk.span) row = some position) :
    Anchored hunks row position := by
  obtain ⟨earlier, hunk, later, rfl, first, covered, found⟩ := first_covering mapped
  have lengths : hunk.Measured := measured hunk (by simp)
  have lines := newRows_add_removedLines hunk.body
  have rows := lengths.new
  obtain ⟨above, within⟩ := (hunk.covers_iff row).mp covered
  by_cases last : row = hunk.newStart + hunk.newLines
  · refine Anchored.below earlier hunk later rfl first last ⟨by omega, ?_⟩ ?_
    · simp only [lineTotal_append, lineTotal_cons]
      omega
    · intro unremoved
      simp only [lineTotal_append, lineTotal_cons, lineTotal_nil]
      omega
  · have inside : row < hunk.newStart + hunk.newLines := by omega
    obtain ⟨place, sameEarlier, sameHunk, shows, same⟩ :=
      exists_place earlier later lengths above inside
    have start : place.row = place.hunk.newStart + newRows place.before := rfl
    have counted := place.number_eq
    rw [sameEarlier] at counted
    rw [sameHunk] at start
    rw [← sameEarlier] at first
    refine Anchored.shown place first shows same ⟨by omega, ?_⟩ ?_
    · simp only [lineTotal_append, lineTotal_cons]
      omega
    · intro unremoved
      have number : position = place.number := by omega
      refine ⟨⟨place.line, some place.row⟩, ?_, shows, congrArg some same⟩
      rw [number, lineAt?_number, if_pos shows]

/-- The comments on files that failed, where all of them are in the change of a diff: each
    comment comes from a diagnostic of one of the files, and stands as `Anchored` says in
    the hunks of that file's section. -/
theorem comments_anchored {text : String} {change : Change}
    (accepted : Change.ofDiff text = .ok change) (checker : Checker)
    (known : ∀ entry ∈ checker.report.failed, (change.find? entry.1).isSome = true) :
    ∃ files, sections text.toList = .ok files ∧
      commentsOf change checker =
        .ok (checker.report.failed.flatMap (commentsOnFile checker change)) ∧
      ∀ entry ∈ checker.report.failed, ∃ file patch,
        sectionOf? entry.1 files = some file ∧ file.patch = .ok patch ∧
        change.find? entry.1 = some patch ∧
        ∀ diagnostic ∈ entry.2.diagnostics, ∀ comment,
          commentOn? checker entry.1 patch diagnostic = some comment →
            comment.path = entry.1 ∧ Anchored file.hunks diagnostic.row comment.position := by
  obtain ⟨files, read, origin⟩ := find?_ofDiff accepted
  refine ⟨files, read, commentsOnFiles_eq known, ?_⟩
  intro entry member
  obtain ⟨patch, kept⟩ := Option.isSome_iff_exists.mp (known entry member)
  obtain ⟨file, found, given⟩ := origin entry.1 patch kept
  refine ⟨file, patch, found, given, kept, ?_⟩
  intro diagnostic _ comment made
  have spans : patch.spans = file.hunks.map Hunk.span := (Section.patch_eq_ok given).2
  have measured : file.Measured := sections_measured read file (sectionOf?_eq_some found).1
  unfold commentOn? at made
  split at made
  · obtain ⟨position, mapped, rfl⟩ := Option.map_eq_some_iff.mp made
    rw [spans] at mapped
    exact ⟨rfl, anchored_of_position measured mapped⟩
  · cases made

/-- A checker that has found something in the row after the first of two hunks, and in the
    first row of the second. -/
def twoFindings : Checker where
  kind := .analyzer
  options := []
  report := { Report.empty with
    failed := [("a.cpp", {
      file := "a.cpp"
      passed := false
      diagnostics := [⟨"a.cpp", 4, 1, "warning", "below", "[t]", ""⟩,
        ⟨"a.cpp", 11, 1, "warning", "first", "[t]", ""⟩] })] }

/-- Both findings in the two hunks are anchored as the law says. -/
theorem comments_anchored_twoHunks :
    Change.ofDiff twoHunks = .ok [("a.cpp", twoHunkPatch)] ∧
    (∀ entry ∈ twoFindings.report.failed,
      (Change.find? [("a.cpp", twoHunkPatch)] entry.1).isSome = true) ∧
    ∃ files, sections twoHunks.toList = .ok files ∧
      commentsOf [("a.cpp", twoHunkPatch)] twoFindings =
        .ok (twoFindings.report.failed.flatMap
          (commentsOnFile twoFindings [("a.cpp", twoHunkPatch)])) ∧
      ∀ entry ∈ twoFindings.report.failed, ∃ file patch,
        sectionOf? entry.1 files = some file ∧ file.patch = .ok patch ∧
        Change.find? [("a.cpp", twoHunkPatch)] entry.1 = some patch ∧
        ∀ diagnostic ∈ entry.2.diagnostics, ∀ comment,
          commentOn? twoFindings entry.1 patch diagnostic = some comment →
            comment.path = entry.1 ∧ Anchored file.hunks diagnostic.row comment.position := by
  have accepted : Change.ofDiff twoHunks = .ok [("a.cpp", twoHunkPatch)] := by rfl
  have known : ∀ entry ∈ twoFindings.report.failed,
      (Change.find? [("a.cpp", twoHunkPatch)] entry.1).isSome = true := by
    intro entry member
    rw [List.mem_singleton.mp member]
    rfl
  exact ⟨accepted, known, comments_anchored accepted twoFindings known⟩

/-- Neither of the two comments stands on a line that shows its row. No line shows row
    four, the one after the first hunk. Row eleven is on the fifth line, behind a removed
    one. Both comments stand on the removed line, the fourth. -/
theorem comments_beside_their_rows :
    Change.ofDiff twoHunks = .ok [("a.cpp", twoHunkPatch)] ∧
    ∃ file, sections twoHunks.toList = .ok [file] ∧ sectionOf? "a.cpp" [file] = some file ∧
      commentsOf [("a.cpp", twoHunkPatch)] twoFindings =
        .ok [⟨"a.cpp", 4, "below [t]"⟩, ⟨"a.cpp", 4, "first [t]"⟩] ∧
      ¬ ShowsRow file.hunks 4 4 ∧ ¬ ShowsRow file.hunks 4 11 ∧ ShowsRow file.hunks 5 11 := by
  refine ⟨rfl, _, rfl, rfl, rfl, ?_, ?_, ?_⟩
  · rintro ⟨shown, standing, kept, -⟩
    obtain rfl : ⟨⟨.removed, "x\n".toList⟩, none⟩ = shown := Option.some.inj standing
    cases kept
  · rintro ⟨shown, standing, kept, -⟩
    obtain rfl : ⟨⟨.removed, "x\n".toList⟩, none⟩ = shown := Option.some.inj standing
    cases kept
  · exact ⟨⟨⟨.added, "y\n".toList⟩, some 11⟩, rfl, rfl, rfl⟩

end LintReview.Review
