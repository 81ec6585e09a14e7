import LintReview.Proofs.Diff.LongNumbers
import LintReview.Proofs.Diff.Patches

/-!
# Written changes read back

The text of written changes is cut into the lines that were written, since none of them holds
a newline of its own; reading them gives the sections of the files, and from the sections
come the patches of the files that exist afterwards. So the written changes are read back,
whatever the lines of their blocks read like.

A header's numbers are the only limit: one with more digits than are read at most makes the
whole text unreadable.
-/

namespace LintReview.Diff.Written

/-! ## Lines -/

/-- A written number holds no newline. -/
theorem number_single (value : Nat) : '\n' ∉ number value := by
  intro member
  have digit : '\n'.isDigit = true :=
    Nat.isDigit_of_mem_toDigits (by decide) (by decide) member
  exact absurd digit (by decide)

/-- The name of an object holds no newline. -/
theorem hexadecimal_single (object : List (Fin 16)) : '\n' ∉ hexadecimal object := by
  intro member
  obtain ⟨digit, -, same⟩ := List.mem_map.mp member
  have other : ∀ digit : Fin 16, Nat.digitChar digit.val ≠ '\n' := by decide
  exact other digit same

/-- A mode holds no newline. -/
theorem Mode.written_single (mode : Mode) : '\n' ∉ mode.written := by
  cases mode <;> decide

/-- A start and a length hold no newline. -/
theorem extent_single (start length : Nat) : '\n' ∉ Block.extent start length := by
  unfold Block.extent
  split
  · simp [number_single]
  · simp [number_single]

/-- No line of a block holds a newline of its own. -/
theorem Block.written_single (block : Block) : ∀ line ∈ block.written, '\n' ∉ line := by
  refine List.forall_mem_cons.mpr ⟨?_, fun written member => ?_⟩
  · have heading := block.heading.single
    unfold Block.header
    split
    · simp [extent_single]
    · simp [extent_single, heading]
  · obtain ⟨line, -, part⟩ := List.mem_flatMap.mp member
    have content := line.content.single
    have onMark : '\n' ≠ mark line.kind := by cases line.kind <;> decide
    rcases List.mem_cons.mp part with rfl | behind
    · simp [content, onMark]
    · have isMarker : written = marker := by
        split at behind
        · exact List.mem_singleton.mp behind
        · exact absurd behind (by simp)
      rw [isMarker]
      decide

/-- No notice holds a newline of its own. -/
theorem Kind.notices_single (name : Name) (kind : Kind) :
    ∀ line ∈ kind.notices name, '\n' ∉ line := by
  have onMode (mode : ModeChange) : ∀ line ∈ mode.notices, '\n' ∉ line := by
    cases mode with
    | kept mode => simp [ModeChange.notices]
    | changed old new => simp [ModeChange.notices, Mode.written_single]
  cases kind with
  | added mode => simp [Kind.notices, Mode.written_single]
  | deleted mode => simp [Kind.notices, Mode.written_single]
  | modified mode => exact onMode mode
  | renamed previous similarity mode =>
    refine List.forall_mem_append.mpr ⟨onMode mode, ?_⟩
    simp only [List.forall_mem_cons, List.mem_append, List.not_mem_nil, not_or]
    simp [number_single, previous.isField.2, name.isField.2]

/-- No line of a file holds a newline of its own. -/
theorem FileChange.written_single (file : FileChange) : ∀ line ∈ file.written, '\n' ∉ line := by
  have oldName : '\n' ∉ file.oldName := by
    obtain ⟨previous, same⟩ := file.oldName_side
    rw [same]
    exact (isField_side previous (by decide) (by decide)).2
  have newName : '\n' ∉ file.newName := (isField_side file.name (by decide) (by decide)).2
  have objects : '\n' ∉ file.objects := by
    have behind : '\n' ∉ file.kind.afterObjects := by
      have onMode (mode : ModeChange) : '\n' ∉ mode.afterObjects := by
        cases mode with
        | kept mode => simp [ModeChange.afterObjects, Mode.written_single]
        | changed old new => simp [ModeChange.afterObjects]
      unfold Kind.afterObjects
      split
      · exact onMode _
      · exact onMode _
      · simp
    unfold FileChange.objects
    simp [hexadecimal_single, behind]
  have blocks : ∀ line ∈ file.blocks.flatMap Block.written, '\n' ∉ line := by
    intro line member
    obtain ⟨block, -, part⟩ := List.mem_flatMap.mp member
    exact block.written_single line part
  intro line member
  simp only [FileChange.written, List.mem_cons, List.mem_append] at member
  rcases member with rfl | notice | rfl | rfl | rfl | inBlock
  · simp [oldName, newName]
  · exact file.kind.notices_single file.name line notice
  · exact objects
  · simp [file.isField_source.2]
  · simp [file.isField_target.2]
  · exact blocks line inBlock

/-- Lines without newlines of their own are cut apart again. -/
theorem terminated_ended {lines : List (List Char)} (single : ∀ line ∈ lines, '\n' ∉ line) :
    Text.terminated (lines.flatMap fun line => line ++ ['\n']) = ended lines := by
  induction lines with
  | nil => rfl
  | cons line rest inductionHypothesis =>
    obtain ⟨one, others⟩ := List.forall_mem_cons.mp single
    rw [List.flatMap_cons, List.append_assoc, List.singleton_append, Text.terminated_line _ one,
      inductionHypothesis others]
    rfl

/-- At the start of a text the reader stands in no block. -/
theorem between_outside : Between ⟨[], none, .outside⟩ := by
  intro file hunk oldLeft newLeft inside
  exact Phase.noConfusion inside

/-- The sections of a text of lines are the files that the reader has at its end, if it can stop
    there. -/
theorem sections_of_run {lines : List (List Char)} (single : ∀ line ∈ lines, '\n' ∉ line)
    {last : Reader} (ran : Reader.run ⟨[], none, .outside⟩ (ended lines) = .ok last)
    (between : Between last) :
    sections (lines.flatMap fun line => line ++ ['\n']) = .ok last.files := by
  simp only [sections, terminated_ended single, ran, bind, Except.bind]
  exact finish_between between

/-- Lines that cannot be read make a text that cannot be read. -/
theorem sections_of_error {lines : List (List Char)} (single : ∀ line ∈ lines, '\n' ∉ line)
    {cause : Error} (failed : Reader.run ⟨[], none, .outside⟩ (ended lines) = .error cause) :
    sections (lines.flatMap fun line => line ++ ['\n']) = .error cause := by
  simp only [sections, terminated_ended single, failed, bind, Except.bind]

/-- No line of files holds a newline of its own. -/
theorem text_single (files : List FileChange) :
    ∀ line ∈ files.flatMap FileChange.written, '\n' ∉ line := by
  intro line member
  obtain ⟨file, -, part⟩ := List.mem_flatMap.mp member
  exact file.written_single line part

/-- The text of files is read as one section for each of them. -/
theorem sections_text {files : List FileChange}
    (readable : ∀ file ∈ files, ∀ block ∈ file.blocks, block.Readable) :
    sections (text files).toList = .ok (files.map FileChange.read) := by
  obtain ⟨last, ran, between, found⟩ := run_files readable between_outside
  rw [text, String.toList_ofList, sections_of_run (text_single files) ran between, found]
  rfl

/-- The text of files with a block that is not readable is not read. -/
theorem sections_text_tooLong {files : List FileChange}
    (unreadable : ∃ file ∈ files, ∃ block ∈ file.blocks, ¬ block.Readable) :
    TooLong (sections (text files).toList) := by
  obtain ⟨digits, long, refused⟩ := run_files_tooLong unreadable between_outside
  refine ⟨digits, long, ?_⟩
  rw [text, String.toList_ofList, sections_of_error (text_single files) refused]

/-! ## Patches -/

/-- A name with its side in front stands for the name. -/
theorem pathOf_side (name : Name) {side : Char} (known : side = 'a' ∨ side = 'b') :
    pathOf (side :: '/' :: name.characters) = .ok (String.ofList name.characters) := by
  have unquoted : Path.unquote (side :: '/' :: name.characters) =
      .ok (side :: '/' :: name.characters) := by
    rcases known with rfl | rfl
    all_goals simp [Path.unquote]
  have dropped : Path.dropSide (side :: '/' :: name.characters) = name.characters := by
    rcases known with rfl | rfl
    all_goals rfl
  have read : Path.read (side :: '/' :: name.characters) = .ok name.characters :=
    (congrArg (Path.dropSide <$> ·) unquoted).trans (congrArg Except.ok dropped)
  rw [pathOf, read]

/-- The hunk that a block is read as has the numbers of the block. -/
theorem Block.span_read (block : Block) : block.read.span = block.span := by
  have counted : block.read.body.length = block.lines.length := List.length_map _
  exact congrArg (fun count : Nat => { block.span with lineCount := count }) counted

/-- The name of no file is on no side. -/
theorem side_ne_noFile {side : Char} (rest : List Char) (letter : side ≠ '/') :
    side :: rest ≠ noFile := by
  intro same
  have first : noFile.head? = some '/' := by decide
  rw [← same] at first
  exact letter (Option.some.inj first)

/-- The name before the change is that of no file exactly if the file is added. -/
theorem source_eq_noFile (file : FileChange) :
    file.source = noFile ↔ ∃ mode, file.kind = .added mode := by
  obtain ⟨previous, same⟩ := file.oldName_side
  have other : file.oldName ≠ noFile := same ▸ side_ne_noFile _ (by decide)
  unfold FileChange.source
  cases file.kind <;> simp [other]

/-- The name after the change is that of no file exactly if the file is deleted. -/
theorem target_eq_noFile (file : FileChange) :
    file.target = noFile ↔ ∃ mode, file.kind = .deleted mode := by
  have other : file.newName ≠ noFile := side_ne_noFile _ (by decide)
  unfold FileChange.target
  cases file.kind <;> simp [other]

/-- A section of blocks is that of an added file if it has no old name, or one block that says
    so. -/
theorem isAdded_blocks (source target : List Char) (blocks : List Block) :
    Section.isAdded ⟨source, target, blocks.map Block.read⟩ = true ↔ source = noFile ∨
      ∃ block, blocks = [block] ∧ block.oldStart = 0 ∧ block.oldLines = 0 := by
  rw [Section.isAdded, Bool.or_eq_true, decide_eq_true_eq]
  rcases blocks with _ | ⟨block, _ | ⟨next, more⟩⟩
  · simp
  · simp [Block.read, Block.hunk]
  · simp

/-- A section of blocks is that of a deleted file if it has no new name, or one block that says
    so. -/
theorem isRemoved_blocks (source target : List Char) (blocks : List Block) :
    Section.isRemoved ⟨source, target, blocks.map Block.read⟩ = true ↔ target = noFile ∨
      ∃ block, blocks = [block] ∧ block.newStart = 0 ∧ block.newLines = 0 := by
  rw [Section.isRemoved, Bool.or_eq_true, decide_eq_true_eq]
  rcases blocks with _ | ⟨block, _ | ⟨next, more⟩⟩
  · simp
  · simp [Block.read, Block.hunk]
  · simp

/-- A file is read as an added one exactly if it is added, or has one block that says so. -/
theorem isAdded_read (file : FileChange) :
    file.read.isAdded = true ↔ (∃ mode, file.kind = .added mode) ∨ file.FromNothing := by
  rw [← source_eq_noFile]
  exact isAdded_blocks file.source file.target file.blocks

/-- A file is read as a deleted one exactly if it is deleted, or has one block that says
    so. -/
theorem isRemoved_read (file : FileChange) :
    file.read.isRemoved = true ↔ (∃ mode, file.kind = .deleted mode) ∨ file.ToNothing := by
  rw [← target_eq_noFile]
  exact isRemoved_blocks file.source file.target file.blocks

/-- A file that is not deleted has its name on the new side. -/
theorem target_eq_newName {file : FileChange} (kept : ∀ mode, file.kind ≠ .deleted mode) :
    file.target = file.newName := by
  unfold FileChange.target
  split
  · rename_i mode deleted
    exact absurd deleted (kept mode)
  · rfl

/-- A file that is not deleted is not read as a deleted one. -/
theorem isRemoved_read_eq_false {file : FileChange} (kept : ∀ mode, file.kind ≠ .deleted mode)
    (filled : ¬ file.ToNothing) : file.read.isRemoved = false := by
  rw [Bool.eq_false_iff, ne_eq, isRemoved_read, not_or]
  exact ⟨fun ⟨mode, deleted⟩ => kept mode deleted, filled⟩

/-- A file that is not added is not read as an added one. -/
theorem isAdded_read_eq_false {file : FileChange} (old : ∀ mode, file.kind ≠ .added mode)
    (filled : ¬ file.FromNothing) : file.read.isAdded = false := by
  rw [Bool.eq_false_iff, ne_eq, isAdded_read, not_or]
  exact ⟨fun ⟨mode, added⟩ => old mode added, filled⟩

/-- The spans of a file's section are those of its blocks. -/
theorem spans_read (file : FileChange) :
    file.read.hunks.map Hunk.span = file.blocks.map Block.span := by
  simp [FileChange.read, Block.span_read]

/-- The path of a section is the path of its file, unless the file is deleted. -/
theorem pathOf_target {file : FileChange} (kept : ∀ mode, file.kind ≠ .deleted mode) :
    pathOf file.read.target = .ok file.path :=
  (congrArg pathOf (target_eq_newName kept)).trans (pathOf_side file.name (.inr rfl))

/-- The patch of a section that is read as an added file. -/
theorem patch_of_isAdded {file : FileChange} (kept : ∀ mode, file.kind ≠ .deleted mode)
    (added : file.read.isAdded = true) :
    file.read.patch = .ok ⟨file.path, file.blocks.map Block.span, .added⟩ := by
  simp only [Section.patch, pathOf_target kept, spans_read, added, bind, Except.bind, pure,
    Except.pure, if_true]

/-- The patch of a section with a path on each side. -/
theorem patch_of_source {file : FileChange} {previous : Name}
    (kept : ∀ mode, file.kind ≠ .deleted mode)
    (before : file.source = 'a' :: '/' :: previous.characters)
    (old : file.read.isAdded = false) :
    file.read.patch = .ok ⟨file.path, file.blocks.map Block.span,
      if String.ofList previous.characters = file.path then .modified
      else .renamed (String.ofList previous.characters)⟩ := by
  have previousPath : pathOf file.read.source = .ok (String.ofList previous.characters) :=
    (congrArg pathOf before).trans (pathOf_side previous (.inl rfl))
  simp only [Section.patch, pathOf_target kept, previousPath, spans_read, old, bind, Except.bind,
    pure, Except.pure]
  rfl

/-- A file that exists afterwards is read as its patch. -/
theorem patch_read {file : FileChange} (distinct : file.Distinct) {entry : String × Patch}
    (given : file.entry? = some entry) :
    file.read.isRemoved = false ∧ file.read.patch = .ok entry.2 ∧ entry.2.path = entry.1 := by
  unfold FileChange.entry? at given
  cases kind : file.kind with
  | deleted mode => simp [kind] at given
  | added mode =>
    simp only [kind, Option.some.injEq] at given
    subst given
    have kept : ∀ mode, file.kind ≠ .deleted mode := by simp [kind]
    have added : file.read.isAdded = true := (isAdded_read file).mpr (.inl ⟨mode, kind⟩)
    exact ⟨isRemoved_read_eq_false kept (distinct.added mode kind),
      patch_of_isAdded kept added, rfl⟩
  | modified mode =>
    simp only [kind, Option.some.injEq] at given
    subst given
    have kept : ∀ mode, file.kind ≠ .deleted mode := by simp [kind]
    obtain ⟨old, filled⟩ := distinct.modified mode kind
    have source : file.source = 'a' :: '/' :: file.name.characters := by
      simp [FileChange.source, FileChange.oldName, kind]
    have same : String.ofList file.name.characters = file.path := rfl
    have made := patch_of_source kept source (isAdded_read_eq_false (by simp [kind]) old)
    rw [if_pos same] at made
    exact ⟨isRemoved_read_eq_false kept filled, made, rfl⟩
  | renamed previous similarity mode =>
    simp only [kind, Option.some.injEq] at given
    subst given
    have kept : ∀ mode, file.kind ≠ .deleted mode := by simp [kind]
    obtain ⟨old, filled, other⟩ := distinct.renamed previous similarity mode kind
    have source : file.source = 'a' :: '/' :: previous.characters := by
      simp [FileChange.source, FileChange.oldName, kind]
    have differs : String.ofList previous.characters ≠ file.path := fun same =>
      other (String.ofList_injective same)
    have made := patch_of_source kept source (isAdded_read_eq_false (by simp [kind]) old)
    rw [if_neg differs] at made
    exact ⟨isRemoved_read_eq_false kept filled, made, rfl⟩

/-- A deleted file is read as a deleted one. -/
theorem isRemoved_of_entry?_eq_none {file : FileChange} (gone : file.entry? = none) :
    file.read.isRemoved = true := by
  rw [isRemoved_read]
  left
  unfold FileChange.entry? at gone
  cases kind : file.kind with
  | deleted mode => exact ⟨mode, rfl⟩
  | added mode => simp [kind] at gone
  | modified mode => simp [kind] at gone
  | renamed previous similarity mode => simp [kind] at gone

/-- The sections of files with a path each add their patches, in order. -/
theorem addSections_read {files : List FileChange} (distinct : ∀ file ∈ files, file.Distinct)
    {change : Change}
    (unique : ((change ++ files.filterMap FileChange.entry?).map Prod.fst).Nodup) :
    change.addSections (files.map FileChange.read) =
      .ok (change ++ files.filterMap FileChange.entry?) :=
  Change.addSections_entries (fun _ _ gone => isRemoved_of_entry?_eq_none gone)
    (fun file member _ given => patch_read (distinct file member) given) unique

/-- Files of which every block is readable are read back from their text. -/
theorem ofDiff_text_of_readable {files : List FileChange}
    (distinct : ∀ file ∈ files, file.Distinct)
    (unique : ((files.filterMap FileChange.entry?).map Prod.fst).Nodup)
    (readable : ∀ file ∈ files, ∀ block ∈ file.blocks, block.Readable) :
    Change.ofDiff (text files) = .ok (files.filterMap FileChange.entry?) := by
  have added : Change.addSections [] (files.map FileChange.read) =
      .ok ([] ++ files.filterMap FileChange.entry?) := addSections_read distinct unique
  rw [ofDiff_of_sections (sections_text readable)]
  exact added

/-- Files with a block that is not readable are not read back. -/
theorem ofDiff_text_of_unreadable {files : List FileChange}
    (unreadable : ∃ file ∈ files, ∃ block ∈ file.blocks, ¬ block.Readable) :
    ∃ digits, Text.maxDigits < digits ∧
      Change.ofDiff (text files) = .error (.malformed (.number (.tooLong digits))) := by
  obtain ⟨digits, long, refused⟩ := sections_text_tooLong unreadable
  exact ⟨digits, long, ofDiff_of_error refused⟩

/-- Reading the text of written changes gives the changes back: one patch for each file that
    is not deleted, in the order of the files. The lines of the blocks may read like anything
    else in the text. It fails exactly if a header has a number with too many digits. -/
theorem ofDiff_text {files : List FileChange} (distinct : ∀ file ∈ files, file.Distinct)
    (unique : ((files.filterMap FileChange.entry?).map Prod.fst).Nodup) :
    ((∀ file ∈ files, ∀ block ∈ file.blocks, block.Readable) →
      Change.ofDiff (text files) = .ok (files.filterMap FileChange.entry?)) ∧
    ((∃ file ∈ files, ∃ block ∈ file.blocks, ¬ block.Readable) →
      ∃ digits, Text.maxDigits < digits ∧
        Change.ofDiff (text files) = .error (.malformed (.number (.tooLong digits)))) :=
  ⟨ofDiff_text_of_readable distinct unique, ofDiff_text_of_unreadable⟩

/-- A line of a block from its text. -/
def line (kind : LineKind) (content : String)
    (single : '\n' ∉ content.toList := by decide +kernel) : BlockLine :=
  ⟨kind, ⟨content.toList, single⟩, false⟩

/-- Files of all four kinds. The lines of the first read like the rest of a text. -/
def fourKinds : List FileChange :=
  [{ name := ⟨"src/main.cpp".toList, by decide +kernel, by decide +kernel⟩
     kind := .modified (.kept .regular)
     oldObject := [1, 15]
     newObject := [2, 10]
     blocks :=
       [{ oldStart := 3, newStart := 3, heading := ⟨"int main()".toList, by decide +kernel⟩
          lines := [line .context "diff --git a/x b/x", line .removed "-- a/x",
            line .added "++ b/x", line .context "@@ -1 +1 @@"] },
        { oldStart := 20, newStart := 20, heading := ⟨[], by decide⟩
          lines := [line .context "z", { line .added "end" with unterminated := true }] }] },
   { name := ⟨"old.txt".toList, by decide +kernel, by decide +kernel⟩
     kind := .deleted .executable
     oldObject := [3]
     newObject := [0]
     blocks := [{ oldStart := 1, newStart := 0, heading := ⟨[], by decide⟩
                  lines := [line .removed "gone"] }] },
   { name := ⟨"lib/new.h".toList, by decide +kernel, by decide +kernel⟩
     kind := .renamed ⟨"lib/old.h".toList, by decide +kernel, by decide +kernel⟩ 80
       (.changed .regular .executable)
     oldObject := [4]
     newObject := [5]
     blocks := [{ oldStart := 7, newStart := 7, heading := ⟨[], by decide⟩
                  lines := [line .removed "one", line .added "two"] }] },
   { name := ⟨"a/b.txt".toList, by decide +kernel, by decide +kernel⟩
     kind := .added .regular
     oldObject := [0]
     newObject := [6]
     blocks := [{ oldStart := 0, newStart := 1, heading := ⟨[], by decide⟩
                  lines := [line .added "", line .added "+"] }] }]

/-- The lines of the four files. -/
def fourKindsLines : List String :=
  ["diff --git a/src/main.cpp b/src/main.cpp",
   "index 1f..2a 100644",
   "--- a/src/main.cpp",
   "+++ b/src/main.cpp",
   "@@ -3,3 +3,3 @@ int main()",
   " diff --git a/x b/x",
   "--- a/x",
   "+++ b/x",
   " @@ -1 +1 @@",
   "@@ -20 +20,2 @@",
   " z",
   "+end",
   "\\ No newline at end of file",
   "diff --git a/old.txt b/old.txt",
   "deleted file mode 100755",
   "index 3..0",
   "--- a/old.txt",
   "+++ /dev/null",
   "@@ -1 +0,0 @@",
   "-gone",
   "diff --git a/lib/old.h b/lib/new.h",
   "old mode 100644",
   "new mode 100755",
   "similarity index 80%",
   "rename from lib/old.h",
   "rename to lib/new.h",
   "index 4..5",
   "--- a/lib/old.h",
   "+++ b/lib/new.h",
   "@@ -7 +7 @@",
   "-one",
   "+two",
   "diff --git a/a/b.txt b/a/b.txt",
   "new file mode 100644",
   "index 0..6",
   "--- /dev/null",
   "+++ b/a/b.txt",
   "@@ -0,0 +1,2 @@",
   "+",
   "++"]

/-- Every one of the four files is told apart. -/
theorem fourKinds_distinct : ∀ file ∈ fourKinds, file.Distinct := by
  intro file member
  simp only [fourKinds, List.mem_cons, List.not_mem_nil, or_false] at member
  rcases member with rfl | rfl | rfl | rfl
  all_goals
    constructor <;> simp [FileChange.FromNothing, FileChange.ToNothing]

/-- The four files are read back from their lines: the three that are not deleted. -/
theorem ofDiff_text_fourKinds :
    fourKinds.flatMap FileChange.written = fourKindsLines.map String.toList ∧
    Change.ofDiff (text fourKinds) = .ok
      [("src/main.cpp", ⟨"src/main.cpp", [⟨"@@ -3,3 +3,3 @@ int main()", 3, 3, 3, 3, 4⟩,
          ⟨"@@ -20,1 +20,2 @@", 20, 1, 20, 2, 2⟩], .modified⟩),
        ("lib/new.h", ⟨"lib/new.h", [⟨"@@ -7,1 +7,1 @@", 7, 1, 7, 1, 2⟩], .renamed "lib/old.h"⟩),
        ("a/b.txt", ⟨"a/b.txt", [⟨"@@ -0,0 +1,2 @@", 0, 0, 1, 2, 2⟩], .added⟩)] := by
  have unique : ((fourKinds.filterMap FileChange.entry?).map Prod.fst).Nodup := by
    decide +kernel
  have readable : ∀ file ∈ fourKinds, ∀ block ∈ file.blocks, block.Readable := by
    decide +kernel
  refine ⟨by decide +kernel, ?_⟩
  rw [(ofDiff_text fourKinds_distinct unique).1 readable]
  rfl

/-- A file with one line, in a block that starts at the given row of the old file. -/
def startingAt (row : Nat) : FileChange where
  name := ⟨"a.txt".toList, by decide +kernel, by decide +kernel⟩
  kind := .modified (.kept .regular)
  oldObject := [1]
  newObject := [2]
  blocks := [{ oldStart := row, newStart := 1, heading := ⟨[], by decide⟩
               lines := [line .context "a"] }]
  nonempty := List.cons_ne_nil _ _

/-- The file exists before and after the change, whatever the row is. -/
theorem startingAt_distinct (row : Nat) : ∀ file ∈ [startingAt row], file.Distinct := by
  have fromSome : ¬ (startingAt row).FromNothing := by
    rintro ⟨block, same, -, empty⟩
    obtain rfl := (List.cons.inj same).1
    cases empty
  have toSome : ¬ (startingAt row).ToNothing := by
    rintro ⟨block, same, -, empty⟩
    obtain rfl := (List.cons.inj same).1
    cases empty
  refine List.forall_mem_singleton.mpr ⟨?added, ?modified, ?renamed⟩
  case added =>
    intro mode other
    cases other
  case modified =>
    intro mode _
    exact ⟨fromSome, toSome⟩
  case renamed =>
    intro previous similarity mode other
    cases other

/-- A row with too many digits makes the block unreadable. -/
theorem startingAt_unreadable {row : Nat} (long : ¬ (number row).length ≤ Text.maxDigits) :
    ∃ file ∈ [startingAt row], ∃ block ∈ file.blocks, ¬ block.Readable :=
  ⟨startingAt row, List.mem_cons_self, _, List.mem_cons_self, fun readable =>
    long readable.oldStart⟩

/-- A power of ten has one digit more than its exponent says. -/
theorem number_pow_long {digits : Nat} (positive : 0 < digits) :
    ¬ (number (Nat.pow 10 digits)).length ≤ digits := by
  intro short
  have below := (Nat.length_toDigits_le_iff (by decide) positive).mp short
  exact Nat.lt_irrefl _ below

/-- A text that is written as any other is not read back: the row where its block starts has
    one digit more than are read. -/
theorem ofDiff_text_startingAt :
    (∀ file ∈ [startingAt (Nat.pow 10 Text.maxDigits)], file.Distinct) ∧
    (([startingAt (Nat.pow 10 Text.maxDigits)].filterMap FileChange.entry?).map
      Prod.fst).Nodup ∧
    Change.ofDiff (text [startingAt (Nat.pow 10 Text.maxDigits)]) ≠
      .ok ([startingAt (Nat.pow 10 Text.maxDigits)].filterMap FileChange.entry?) := by
  have positive : 0 < Text.maxDigits := by decide
  refine ⟨startingAt_distinct _, List.pairwise_singleton _ _, ?_⟩
  obtain ⟨digits, -, refused⟩ :=
    ofDiff_text_of_unreadable (startingAt_unreadable (number_pow_long positive))
  rw [refused]
  intro same
  cases same

end LintReview.Diff.Written
