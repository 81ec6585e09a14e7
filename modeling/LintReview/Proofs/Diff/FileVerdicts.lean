import LintReview.Proofs.Diff.FileHeaders

/-!
# What is made of a file

A header in a diff that is accepted gives the names of one section, and these decide what is
made of its file, but not alone.

A file without a new name is left out. So is every file whose only hunk starts at row zero of
the new file and has no line there: a file that the change empties, although it still exists.
Every other file has a patch. Its status is that it was added if it has no old name, and also
if its only hunk starts at row zero of the old file and has no line there: a file that was
empty before, although it existed. Otherwise the two paths decide between a renamed and a
modified file.
-/

namespace LintReview.Diff

open Written (Mode ended)

/-! ## Names are settled by the header -/

/-- The names of a file on both sides. -/
def Section.names (file : Section) : List Char × List Char := (file.source, file.target)

/-- The file with the number has the names, and its header is behind the reader. -/
structure Reader.Settles (reader : Reader) (number : Nat) (names : List Char × List Char) :
    Prop where
  known : (reader.files.map Section.names)[number]? = some names
  behind : ∀ file, reader.phase = .header file → number < reader.complete.length

section Settled

variable {reader next : Reader} {number : Nat} {names : List Char × List Char}

theorem Reader.Settles.lt_length (settles : reader.Settles number names) :
    number < reader.files.length := by
  obtain ⟨inside, -⟩ := List.getElem?_eq_some_iff.mp settles.known
  simpa using inside

/-- A line inside a hunk changes no name. -/
theorem Reader.Settles.hunkStep {file : Section} {hunk : Hunk} {oldLeft newLeft : Nat}
    {line : List Char} {after : Phase} (settles : reader.Settles number names)
    (phase : reader.phase = .hunk file hunk oldLeft newLeft)
    (advanced : Diff.hunkStep file hunk oldLeft newLeft line = .ok after) :
    Reader.Settles { reader with phase := after } number names := by
  obtain ⟨-, oldRemaining, newRemaining, -, -, rfl⟩ := hunkStep_eq_ok advanced
  have known := settles.known
  rw [Reader.files, phase] at known
  unfold Phase.afterLine
  split
  · constructor
    · simpa [Reader.files, Phase.file?, Section.names] using known
    · intro other inside
      cases inside
  · constructor
    · simpa [Reader.files, Phase.file?, Section.names] using known
    · intro other inside
      cases inside

/-- A line outside hunks changes names only in the header that the reader is in. -/
theorem Reader.Settles.effect {row : Row} (settles : reader.Settles number names)
    (effect : RowEffect reader next row) : next.Settles number names := by
  have short := settles.lt_length
  have known := settles.known
  cases effect with
  | opensHunk file hunk current opens after =>
    subst after
    constructor
    · rw [Reader.files, current] at known
      exact known
    · intro other phase
      cases phase
  | marksFile file source target notice current after =>
    subst after
    have complete : number < reader.complete.length := settles.behind file current
    constructor
    · rw [Reader.files, List.map_append, List.getElem?_append_left (by simpa using complete)]
        at known ⊢
      exact known
    · intro other phase
      exact complete
  | keepsFiles fresh bare files moves =>
    constructor
    · rw [files, List.map_append, List.getElem?_append_left (by simpa using short)]
      exact known
    · intro file phase
      have counted : next.complete.length + 1 = reader.files.length + fresh.length := by
        rw [← List.length_append, ← files, Reader.files, phase, List.length_append]
        rfl
      rw [phase] at moves
      rcases moves.of_header with before | begun
      · have complete := settles.behind file before
        have lengths : reader.files.length = reader.complete.length + 1 := by
          rw [Reader.files, before, List.length_append]
          rfl
        omega
      · have nonempty : 0 < fresh.length := List.length_pos_of_mem begun
        omega

/-- No line changes the names of a file whose header is behind the reader. -/
theorem Reader.Settles.step {line : List Char} (settles : reader.Settles number names)
    (stepped : reader.step line = .ok next) : next.Settles number names := by
  rcases step_eq_ok stepped with
    ⟨file, hunk, oldLeft, newLeft, after, phase, advanced, rfl⟩ | ⟨-, effect⟩
  · exact settles.hunkStep phase advanced
  · exact settles.effect effect

/-- No lines change the names of a file whose header is behind the reader. -/
theorem Reader.Settles.run {lines : List (List Char)} (settles : reader.Settles number names)
    (ran : reader.run lines = .ok next) : next.Settles number names := by
  induction lines generalizing reader with
  | nil =>
    cases ran
    exact settles
  | cons line rest inductionHypothesis =>
    obtain ⟨middle, stepped, ran⟩ := run_cons_eq_ok.mp ran
    exact inductionHypothesis (settles.step stepped) ran

/-- The sections at the end of the text have the names that were settled. -/
theorem Reader.Settles.finish {files : List Section} (settles : reader.Settles number names)
    (finished : reader.finish = .ok files) :
    ∃ file, files[number]? = some file ∧ file.names = names := by
  have known : (files.map Section.names)[number]? = some names := by
    have known := settles.known
    unfold Reader.finish at finished
    split at finished
    · rename_i file hunk phase
      cases finished
      rw [Reader.files, phase] at known
      simpa [Phase.file?, Section.names] using known
    · cases finished
    · cases finished
      exact known
  rw [List.getElem?_map, Option.map_eq_some_iff] at known
  exact known

end Settled

/-- The header of a hunk opens one in the file whose header the reader is in. -/
theorem step_hunkHeader {complete : List Section} {source : Option (List Char)} {file : Section}
    {line : List Char} {next : Reader} (isHeader : (hunkHeader? line).isSome = true)
    (stepped : Reader.step ⟨complete, source, .header file⟩ line = .ok next) :
    ∃ hunk, next = ⟨complete, source, .hunk file hunk hunk.oldLines hunk.newLines⟩ := by
  obtain ⟨row, read⟩ := Option.isSome_iff_exists.mp isHeader
  obtain ⟨oldStart, oldLines, newStart, newLines, heading, rfl⟩ := hunkHeader?_eq_some read
  simp only [Reader.step, Written.ofLine_hunkHeader read, rowStep, Phase.file?] at stepped
  cases opened : openHunk oldStart oldLines newStart newLines heading with
  | error cause =>
    rw [opened] at stepped
    cases stepped
  | ok hunk =>
    rw [opened] at stepped
    cases stepped
    exact ⟨hunk, rfl⟩

/-- A header with a hunk behind it, anywhere in a text that has sections, gives the names of
    the section that follows those before it. -/
theorem FileHeader.names_of_sections {text : List Char} {files : List Section}
    (read : sections text = .ok files) (header : FileHeader) {before rest : List (List Char)}
    {hunkLine : List Char} (isHeader : (hunkHeader? hunkLine).isSome = true)
    (stands : Text.terminated text = before ++ (ended header.written ++ hunkLine :: rest)) :
    ∃ reader file, Reader.run ⟨[], none, .outside⟩ before = .ok reader ∧
      files[reader.files.length]? = some file ∧ file.target = header.target ∧
      (header.target ≠ noFile → file.source = header.source) := by
  simp only [sections, bind, Except.bind] at read
  cases ran : Reader.run ⟨[], none, .outside⟩ (Text.terminated text) with
  | error cause => simp [ran] at read
  | ok last =>
    simp only [ran] at read
    rw [stands] at ran
    obtain ⟨reader, ranBefore, ran⟩ := run_append_eq_ok.mp ran
    obtain ⟨named, ranHeader, ran⟩ := run_append_eq_ok.mp ran
    obtain ⟨known, old, rfl⟩ := header.run_written ranHeader
    obtain ⟨opened, stepped, ran⟩ := run_cons_eq_ok.mp ran
    obtain ⟨hunk, rfl⟩ := step_hunkHeader isHeader stepped
    have settles : Reader.Settles ⟨reader.files, some header.source,
        .hunk ⟨known, header.target, []⟩ hunk hunk.oldLines hunk.newLines⟩
        reader.files.length (known, header.target) := by
      constructor
      · simp [Reader.files, Phase.file?, Section.names]
      · intro file phase
        cases phase
    obtain ⟨file, found, names⟩ := (settles.run ran).finish read
    obtain ⟨source, target⟩ := Prod.mk.inj names
    exact ⟨reader, file, ranBefore, found, target, fun real => source.trans (old real)⟩

/-! ## The verdict -/

/-- The only hunk of the file starts at row zero of the new file and has no line there. -/
def Section.Emptied (file : Section) : Prop :=
  ∃ hunk, file.hunks = [hunk] ∧ hunk.newStart = 0 ∧ hunk.newLines = 0

/-- The only hunk of the file starts at row zero of the old file and has no line there. -/
def Section.WasEmpty (file : Section) : Prop :=
  ∃ hunk, file.hunks = [hunk] ∧ hunk.oldStart = 0 ∧ hunk.oldLines = 0

/-- A file counts as removed if it has no new name, or if it is emptied. -/
theorem Section.isRemoved_iff (file : Section) :
    file.isRemoved = true ↔ file.target = noFile ∨ file.Emptied := by
  unfold Section.isRemoved Section.Emptied
  cases file.hunks with
  | nil => simp
  | cons hunk others =>
    cases others with
    | nil => simp
    | cons second rest => simp

/-- A file counts as added if it has no old name, or if it was empty. -/
theorem Section.isAdded_iff (file : Section) :
    file.isAdded = true ↔ file.source = noFile ∨ file.WasEmpty := by
  unfold Section.isAdded Section.WasEmpty
  cases file.hunks with
  | nil => simp
  | cons hunk others =>
    cases others with
    | nil => simp
    | cons second rest => simp

/-- The patch says of a file with the names of the header what the header says, except that a
    file that was empty counts as added. -/
structure FileHeader.Describes (header : FileHeader) (file : Section) (patch : Patch) : Prop where
  path : pathOf header.target = .ok patch.path
  spans : patch.spans = file.hunks.map Hunk.span
  added : patch.status = .added ↔ header.source = noFile ∨ file.WasEmpty
  renamed : ∀ previous, patch.status = .renamed previous ↔
    header.source ≠ noFile ∧ ¬ file.WasEmpty ∧ pathOf header.source = .ok previous ∧
      previous ≠ patch.path
  modified : patch.status = .modified ↔
    header.source ≠ noFile ∧ ¬ file.WasEmpty ∧ pathOf header.source = .ok patch.path

/-- The patch of a section describes it as its header does. -/
theorem FileHeader.describes {header : FileHeader} {file : Section} {patch : Patch}
    (target : file.target = header.target) (source : file.source = header.source)
    (given : file.patch = .ok patch) : header.Describes file patch := by
  obtain ⟨path, spans⟩ := Section.patch_eq_ok given
  rw [target] at path
  have addedIff := file.isAdded_iff
  rw [source] at addedIff
  rcases Section.patch_status given with ⟨isAdded, status⟩ | ⟨notAdded, previous, old, status⟩
  · have added := addedIff.mp isAdded
    constructor
    · exact path
    · exact spans
    · simp [status, added]
    · intro previous
      rw [status]
      constructor
      · intro impossible
        cases impossible
      · rintro ⟨real, filled, -⟩
        exact absurd added (by simp [real, filled])
    · rw [status]
      constructor
      · intro impossible
        cases impossible
      · rintro ⟨real, filled, -⟩
        exact absurd added (by simp [real, filled])
  · have kept : ¬ (header.source = noFile ∨ file.WasEmpty) := by
      rw [← addedIff, notAdded]
      exact Bool.false_ne_true
    obtain ⟨real, filled⟩ := not_or.mp kept
    rw [source] at old
    by_cases same : previous = patch.path
    · rw [if_pos same] at status
      constructor
      · exact path
      · exact spans
      · simp [status, kept]
      · intro other
        rw [status, old]
        constructor
        · intro impossible
          cases impossible
        · rintro ⟨-, -, equal, differs⟩
          exact absurd ((Except.ok.inj equal).symm.trans same) differs
      · simp [status, real, filled, old, same]
    · rw [if_neg same] at status
      constructor
      · exact path
      · exact spans
      · simp [status, kept]
      · intro other
        rw [status, old]
        constructor
        · intro equal
          obtain rfl := Status.renamed.inj equal
          exact ⟨real, filled, rfl, same⟩
        · rintro ⟨-, -, equal, -⟩
          rw [Except.ok.inj equal]
      · simp [status, old, same]

/-- What a change makes of a file with the given number, of which it knows the header. -/
structure FileHeader.Decides (header : FileHeader) (change : Change) (files : List Section)
    (number : Nat) (file : Section) : Prop where
  /-- The file has a patch exactly if it has a new name and is not emptied. -/
  kept : file.isRemoved = false ↔ header.target ≠ noFile ∧ ¬ file.Emptied
  /-- The patch describes the file, and the change has it if no later section is on its
      path. -/
  patched : file.isRemoved = false → ∃ patch, file.patch = .ok patch ∧
    header.Describes file patch ∧
    (sectionOf? patch.path (files.drop (number + 1)) = none →
      change.find? patch.path = some patch)
  /-- A file without a patch leaves no trace. -/
  skipped : file.isRemoved = true →
    Change.addSections [] (files.take number ++ files.drop (number + 1)) = .ok change

/-- What is made of a file, for every header with a hunk behind it in every text that is
    accepted: the names in the header decide, except that an emptied file is left out and a
    file that was empty counts as added. -/
theorem ofDiff_decides {text : String} {change : Change}
    (accepted : Change.ofDiff text = .ok change) (header : FileHeader)
    {before rest : List (List Char)} {hunkLine : List Char}
    (isHeader : (hunkHeader? hunkLine).isSome = true)
    (stands : Text.terminated text.toList =
      before ++ (ended header.written ++ hunkLine :: rest)) :
    ∃ reader files file, Reader.run ⟨[], none, .outside⟩ before = .ok reader ∧
      sections text.toList = .ok files ∧ files[reader.files.length]? = some file ∧
      file.target = header.target ∧ (header.target ≠ noFile → file.source = header.source) ∧
      header.Decides change files reader.files.length file := by
  obtain ⟨files, read, -⟩ := find?_ofDiff accepted
  obtain ⟨reader, file, ran, found, target, source⟩ :=
    header.names_of_sections read isHeader stands
  refine ⟨reader, files, file, ran, read, found, target, source, ?_⟩
  rw [ofDiff_of_sections read] at accepted
  obtain ⟨inside, here⟩ := List.getElem?_eq_some_iff.mp found
  have split : files = files.take reader.files.length ++
      file :: files.drop (reader.files.length + 1) := by
    rw [← here, List.getElem_cons_drop, List.take_append_drop]
  have kept : file.isRemoved = false ↔ header.target ≠ noFile ∧ ¬ file.Emptied := by
    rw [← Bool.not_eq_true, file.isRemoved_iff, target, not_or]
  constructor
  · exact kept
  · intro remains
    have member : file ∈ files := List.mem_of_getElem? found
    obtain ⟨patch, given⟩ := Change.patch_of_addSections accepted member remains
    refine ⟨patch, given, FileHeader.describes target (source (kept.mp remains).1) given, ?_⟩
    intro last
    have patched : file.patchedPath? = some patch.path := by
      have path := (Section.patch_eq_ok given).1
      simp [Section.patchedPath?, remains, path, Except.toOption]
    have origin : sectionOf? patch.path files = some file := by
      rw [split, sectionOf?_append, sectionOf?, last]
      simp [patched]
    have looked := find?_addSections accepted patch.path
    simp only [origin] at looked
    obtain ⟨other, same, held⟩ := looked
    obtain rfl : patch = other := Except.ok.inj (given.symm.trans same)
    exact held
  · intro removed
    rw [split, Change.addSections_append] at accepted
    simp only [Change.addSections_removed removed] at accepted
    rw [Change.addSections_append]
    exact accepted

/-- A commit that moves a file with a blank in its name, with the lines before its header. -/
def movedFile : String :=
  "Move it\n\ndiff --git a/a b.txt b/c d.txt\nrename from a b.txt\nrename to c d.txt\n" ++
    "--- a/a b.txt\t\n+++ b/c d.txt\t\n@@ -1 +1 @@\n-x\n+y\n"

/-- The header of the moved file. -/
def movedHeader : FileHeader where
  oldName := "a/a b.txt".toList
  newName := "b/c d.txt".toList
  presence := .kept
  remarks := [⟨.renameFrom, ⟨"a b.txt".toList, by decide⟩⟩,
    ⟨.renameTo, ⟨"c d.txt".toList, by decide⟩⟩]
  oldTab := true
  newTab := true

/-- The header of the moved file decides what is made of it. -/
theorem ofDiff_decides_movedFile :
    ∃ change, Change.ofDiff movedFile = .ok change ∧
    (hunkHeader? "@@ -1 +1 @@\n".toList).isSome = true ∧
    Text.terminated movedFile.toList = ["Move it\n".toList, "\n".toList] ++
      (ended movedHeader.written ++
        "@@ -1 +1 @@\n".toList :: ["-x\n".toList, "+y\n".toList]) ∧
    ∃ reader files file,
      Reader.run ⟨[], none, .outside⟩ ["Move it\n".toList, "\n".toList] = .ok reader ∧
      sections movedFile.toList = .ok files ∧ files[reader.files.length]? = some file ∧
      file.target = movedHeader.target ∧
      (movedHeader.target ≠ noFile → file.source = movedHeader.source) ∧
      movedHeader.Decides change files reader.files.length file := by
  have accepted : Change.ofDiff movedFile = .ok [("c d.txt", ⟨"c d.txt",
      [⟨"@@ -1,1 +1,1 @@", 1, 1, 1, 1, 2⟩], .renamed "a b.txt"⟩)] := by
    set_option maxRecDepth 4000 in rfl
  have isHeader : (hunkHeader? "@@ -1 +1 @@\n".toList).isSome = true := by rfl
  have stands : Text.terminated movedFile.toList = ["Move it\n".toList, "\n".toList] ++
      (ended movedHeader.written ++
        "@@ -1 +1 @@\n".toList :: ["-x\n".toList, "+y\n".toList]) := by
    set_option maxRecDepth 4000 in rfl
  exact ⟨_, accepted, isHeader, stands, ofDiff_decides accepted movedHeader isHeader stands⟩

/-- The header of a file that is changed in its place. -/
def changedHeader : FileHeader where
  oldName := "a/a.txt".toList
  newName := "b/a.txt".toList
  presence := .kept
  remarks := [⟨.objects, ⟨"1..2 100644".toList, by decide⟩⟩]

/-- A change that leaves a file empty. -/
def emptiedFile : String :=
  "diff --git a/a.txt b/a.txt\nindex 1..2 100644\n--- a/a.txt\n+++ b/a.txt\n" ++
    "@@ -1 +0,0 @@\n-x\n"

/-- A change that fills an empty file. -/
def filledFile : String :=
  "diff --git a/a.txt b/a.txt\nindex 1..2 100644\n--- a/a.txt\n+++ b/a.txt\n" ++
    "@@ -0,0 +1 @@\n+x\n"

/-- By its header the file exists before and after the change, in both diffs. The one that is
    emptied is left out all the same, and the one that was empty counts as added. -/
theorem emptied_and_filled_misjudged :
    changedHeader.source ≠ noFile ∧ changedHeader.target ≠ noFile ∧
    Text.terminated emptiedFile.toList =
      ended changedHeader.written ++ ["@@ -1 +0,0 @@\n".toList, "-x\n".toList] ∧
    Change.ofDiff emptiedFile = .ok [] ∧
    Text.terminated filledFile.toList =
      ended changedHeader.written ++ ["@@ -0,0 +1 @@\n".toList, "+x\n".toList] ∧
    Change.ofDiff filledFile =
      .ok [("a.txt", ⟨"a.txt", [⟨"@@ -0,0 +1,1 @@", 0, 0, 1, 1, 1⟩], .added⟩)] := by
  have source : changedHeader.source ≠ noFile := by decide
  have target : changedHeader.target ≠ noFile := by decide
  exact ⟨source, target, by rfl, by rfl, by rfl, by rfl⟩

end LintReview.Diff
