import LintReview.Diff.Patch
import LintReview.Proofs.Diff.HunkLengths

/-!
# Patches and the sections they come from

A change keeps one patch for each path. A diff may have several sections on one path; the
last of them gives the patch. `sectionOf?` finds it, and `find?_ofDiff` says that looking
up a path in the change of a diff is looking up its section and taking the section's patch.
The hunks that a patch counts are therefore the hunks of one section, and their headers
count their bodies.
-/

namespace LintReview.Diff

/-- The path that a section has a patch for: none if its file is removed. -/
def Section.patchedPath? (file : Section) : Option String :=
  if file.isRemoved then none else (pathOf file.target).toOption

/-- The section that the patch of a path comes from: the last one on the path. -/
def sectionOf? (path : String) : List Section → Option Section
  | [] => none
  | file :: rest =>
    match sectionOf? path rest with
    | some later => some later
    | none => if file.patchedPath? = some path then some file else none

/-- The section is one of the diff's, and on the path. -/
theorem sectionOf?_eq_some {path : String} {files : List Section} {file : Section}
    (found : sectionOf? path files = some file) :
    file ∈ files ∧ file.patchedPath? = some path := by
  induction files with
  | nil => cases found
  | cons first rest inductionHypothesis =>
    unfold sectionOf? at found
    cases later : sectionOf? path rest with
    | some other =>
      rw [later] at found
      obtain rfl : other = file := Option.some.inj found
      obtain ⟨member, patched⟩ := inductionHypothesis later
      exact ⟨List.mem_cons_of_mem first member, patched⟩
    | none =>
      simp only [later] at found
      split at found
      · next patched =>
        obtain rfl : first = file := Option.some.inj found
        exact ⟨List.mem_cons_self, patched⟩
      · cases found

/-- A path has a section if the diff has some section on it. -/
theorem exists_sectionOf? {path : String} {files : List Section} {file : Section}
    (member : file ∈ files) (patched : file.patchedPath? = some path) :
    ∃ last, sectionOf? path files = some last := by
  induction files with
  | nil => cases member
  | cons first rest inductionHypothesis =>
    unfold sectionOf?
    cases later : sectionOf? path rest with
    | some last => exact ⟨last, rfl⟩
    | none =>
      rcases List.mem_cons.mp member with rfl | inside
      · exact ⟨file, if_pos patched⟩
      · obtain ⟨last, found⟩ := inductionHypothesis inside
        rw [later] at found
        cases found

/-- What a section's patch is: its path is read off the new name, and its spans are those
    of the section's hunks. -/
theorem Section.patch_eq_ok {file : Section} {patch : Patch} (given : file.patch = .ok patch) :
    pathOf file.target = .ok patch.path ∧ patch.spans = file.hunks.map Hunk.span := by
  unfold Section.patch at given
  cases path : pathOf file.target with
  | error cause => simp [path, bind, Except.bind] at given
  | ok newPath =>
    simp only [path, bind, Except.bind, pure, Except.pure] at given
    split at given
    · cases given
      exact ⟨rfl, rfl⟩
    · split at given
      · cases given
      · cases given
        exact ⟨rfl, rfl⟩

/-- The status of a section's patch: added if the section says so, and else by the two
    paths. -/
theorem Section.patch_status {file : Section} {patch : Patch} (given : file.patch = .ok patch) :
    file.isAdded = true ∧ patch.status = .added ∨
      file.isAdded = false ∧ ∃ previous, pathOf file.source = .ok previous ∧
        patch.status = if previous = patch.path then .modified else .renamed previous := by
  unfold Section.patch at given
  cases path : pathOf file.target with
  | error cause => simp [path, bind, Except.bind] at given
  | ok newPath =>
    simp only [path, bind, Except.bind, pure, Except.pure] at given
    by_cases added : file.isAdded = true
    · rw [if_pos added] at given
      cases given
      exact .inl ⟨added, rfl⟩
    · rw [if_neg added] at given
      split at given
      · cases given
      · rename_i previous old
        cases given
        exact .inr ⟨by simpa using added, previous, old, rfl⟩

/-- A later section on a path comes before the earlier ones. -/
theorem sectionOf?_append (path : String) (first second : List Section) :
    sectionOf? path (first ++ second) = (sectionOf? path second).or (sectionOf? path first) := by
  induction first with
  | nil => simp [sectionOf?]
  | cons file rest inductionHypothesis =>
    rw [List.cons_append, sectionOf?, inductionHypothesis, sectionOf?]
    cases sectionOf? path second <;> simp

/-- Sections are added one after the other. -/
theorem Change.addSections_append (change : Change) (first second : List Section) :
    change.addSections (first ++ second) =
      (change.addSections first).bind fun next => next.addSections second := by
  induction first generalizing change with
  | nil => rfl
  | cons file rest inductionHypothesis =>
    rw [List.cons_append, addSections, addSections]
    split
    · exact inductionHypothesis change
    · cases file.patch with
      | error cause => rfl
      | ok patch => exact inductionHypothesis _

/-- A section whose file is removed adds nothing. -/
theorem Change.addSections_removed {change : Change} {file : Section}
    (removed : file.isRemoved = true) (rest : List Section) :
    change.addSections (file :: rest) = change.addSections rest := by
  rw [addSections, if_pos removed]

/-- If sections can be added, each one whose file is not removed has a patch. -/
theorem Change.patch_of_addSections {change result : Change} {files : List Section}
    (added : change.addSections files = .ok result) {file : Section} (member : file ∈ files)
    (kept : file.isRemoved = false) : ∃ patch, file.patch = .ok patch := by
  induction files generalizing change with
  | nil => cases member
  | cons first rest inductionHypothesis =>
    unfold addSections at added
    rcases List.mem_cons.mp member with rfl | later
    · rw [kept, if_neg Bool.false_ne_true] at added
      cases given : file.patch with
      | error cause =>
        rw [given] at added
        cases added
      | ok patch => exact ⟨patch, rfl⟩
    · split at added
      · exact inductionHypothesis added later
      · cases given : first.patch with
        | error cause =>
          rw [given] at added
          cases added
        | ok patch =>
          rw [given] at added
          exact inductionHypothesis added later

/-- Adding sections to a change: the last section on a path gives its patch, and a path
    without a section keeps what it had. -/
theorem find?_addSections {change result : Change} {files : List Section}
    (added : change.addSections files = .ok result) (path : String) :
    match sectionOf? path files with
    | some file => ∃ patch, file.patch = .ok patch ∧ result.find? path = some patch
    | none => result.find? path = change.find? path := by
  induction files generalizing change with
  | nil =>
    obtain rfl : change = result := Except.ok.inj added
    rfl
  | cons file rest inductionHypothesis =>
    unfold Change.addSections at added
    unfold sectionOf?
    by_cases removed : file.isRemoved = true
    · simp only [removed, if_true] at added
      have unpatched : file.patchedPath? = none := by simp [Section.patchedPath?, removed]
      have tail := inductionHypothesis added
      cases later : sectionOf? path rest with
      | some other => simpa only [later] using tail
      | none => simpa [later, unpatched] using tail
    · simp only [removed, bind, Except.bind] at added
      cases given : file.patch with
      | error cause => simp [given] at added
      | ok patch =>
        simp only [given] at added
        have patched : file.patchedPath? = some patch.path := by
          have read := (Section.patch_eq_ok given).1
          simp [Section.patchedPath?, removed, read, Except.toOption]
        have tail := inductionHypothesis added
        cases later : sectionOf? path rest with
        | some other => simpa only [later] using tail
        | none =>
          simp only [later] at tail
          rw [tail, Change.find?, Change.put, lookup_putEntry]
          by_cases same : path = patch.path
          · simp [patched, same, given]
          · simp [patched, same, Ne.symm same, Change.find?]

/-- If every section has a patch, the sections give a change. -/
theorem Change.exists_addSections {files : List Section}
    (patched : ∀ file ∈ files, ∃ patch, file.patch = .ok patch) (change : Change) :
    ∃ result, change.addSections files = .ok result := by
  induction files generalizing change with
  | nil => exact ⟨change, rfl⟩
  | cons file rest inductionHypothesis =>
    obtain ⟨⟨patch, given⟩, later⟩ := List.forall_mem_cons.mp patched
    unfold addSections
    split
    · exact inductionHypothesis later change
    · rw [given]
      exact inductionHypothesis later _

/-- Sections of items that each have an entry or none add the entries, in order.

    By induction on the items. A path that no entry has yet gets a new entry at the end. -/
theorem Change.addSections_entries {α : Type} {read : α → Section}
    {entryOf : α → Option (String × Patch)} {items : List α}
    (gone : ∀ item ∈ items, entryOf item = none → (read item).isRemoved = true)
    (kept : ∀ item ∈ items, ∀ entry, entryOf item = some entry →
      (read item).isRemoved = false ∧ (read item).patch = .ok entry.2 ∧ entry.2.path = entry.1)
    {change : Change} (unique : ((change ++ items.filterMap entryOf).map Prod.fst).Nodup) :
    change.addSections (items.map read) = .ok (change ++ items.filterMap entryOf) := by
  induction items generalizing change with
  | nil => simp [addSections]
  | cons item rest inductionHypothesis =>
    obtain ⟨oneGone, othersGone⟩ := List.forall_mem_cons.mp gone
    obtain ⟨oneKept, othersKept⟩ := List.forall_mem_cons.mp kept
    rw [List.map_cons, addSections]
    cases known : entryOf item with
    | none =>
      rw [List.filterMap_cons_none known] at unique ⊢
      rw [if_pos (oneGone known)]
      exact inductionHypothesis othersGone othersKept unique
    | some entry =>
      obtain ⟨path, patch⟩ := entry
      rw [List.filterMap_cons_some known] at unique ⊢
      obtain ⟨remains, made, same⟩ := oneKept _ known
      have absent : path ∉ change.map Prod.fst := by
        intro member
        rw [List.map_append, List.nodup_append] at unique
        exact unique.2.2 path member path (by simp) rfl
      have put : change.put patch.path patch = change ++ [(path, patch)] := by
        rw [same]
        exact putEntry_new patch absent
      rw [List.append_cons] at unique ⊢
      simp only [remains, made, put, bind, Except.bind]
      exact inductionHypothesis othersGone othersKept unique

/-- The change of a diff that can be read comes from its sections. -/
theorem ofDiff_of_sections {text : String} {files : List Section}
    (read : sections text.toList = .ok files) :
    Change.ofDiff text = Change.addSections [] files := by
  unfold Change.ofDiff
  rw [read]
  rfl

/-- A text that is not a diff gives no change. -/
theorem ofDiff_of_error {text : String} {cause : Error}
    (failed : sections text.toList = .error cause) :
    Change.ofDiff text = .error (.malformed cause) := by
  unfold Change.ofDiff
  rw [failed]
  rfl

/-- Looking up a path in the change of a diff is taking the patch of its section. -/
theorem find?_ofDiff {text : String} {change : Change}
    (accepted : Change.ofDiff text = .ok change) :
    ∃ files, sections text.toList = .ok files ∧ ∀ path patch, change.find? path = some patch →
      ∃ file, sectionOf? path files = some file ∧ file.patch = .ok patch := by
  cases read : sections text.toList with
  | error cause =>
    rw [ofDiff_of_error read] at accepted
    cases accepted
  | ok files =>
    rw [ofDiff_of_sections read] at accepted
    refine ⟨files, rfl, ?_⟩
    intro path patch kept
    have origin := find?_addSections accepted path
    cases found : sectionOf? path files with
    | none =>
      simp only [found] at origin
      rw [origin] at kept
      cases kept
    | some file =>
      simp only [found] at origin
      obtain ⟨given, made, stored⟩ := origin
      obtain rfl : given = patch := Option.some.inj (stored.symm.trans kept)
      exact ⟨file, rfl, made⟩

/-- A change with one patch for each path keeps that with another patch. -/
theorem Change.nodup_put {change : Change} (path : String) (patch : Patch)
    (distinct : (change.map Prod.fst).Nodup) : ((change.put path patch).map Prod.fst).Nodup := by
  unfold Change.put
  rw [keys_putEntry]
  split
  · exact distinct
  · next absent =>
    refine List.nodup_append.mpr ⟨distinct, by simp, ?_⟩
    rintro known member other last rfl
    rw [List.mem_singleton.mp last] at member
    exact absent member

/-- Adding sections keeps one patch for each path. -/
theorem Change.nodup_addSections {change result : Change} {files : List Section}
    (distinct : (change.map Prod.fst).Nodup) (added : change.addSections files = .ok result) :
    (result.map Prod.fst).Nodup := by
  induction files generalizing change with
  | nil =>
    obtain rfl : change = result := Except.ok.inj added
    exact distinct
  | cons file rest inductionHypothesis =>
    unfold Change.addSections at added
    split at added
    · exact inductionHypothesis distinct added
    · cases given : file.patch with
      | error cause =>
        rw [given] at added
        cases added
      | ok patch =>
        rw [given] at added
        exact inductionHypothesis (nodup_put _ _ distinct) added

/-- The change of a diff has one patch for each path. -/
theorem Change.nodup_ofDiff {text : String} {change : Change}
    (accepted : Change.ofDiff text = .ok change) : (change.map Prod.fst).Nodup := by
  obtain ⟨files, read, -⟩ := find?_ofDiff accepted
  rw [ofDiff_of_sections read] at accepted
  have start : (([] : Change).map Prod.fst).Nodup := by simp
  exact nodup_addSections start accepted

end LintReview.Diff
