import LintReview.Proofs.Diff.OctalNames
import LintReview.Proofs.Diff.RoundTrip

/-!
# Changes with names in octal digits

The text of a change to files that exist before and after it, whatever their paths are: every
name is written with all its bytes in ASCII. Reading gives every file its path back, with its
path before the change if it was renamed.

What stands in the way is the opening line, where the names are not told apart by more than a
blank. If a new path forks, the line is cut inside the new name. The names that are given again
before the first block show the mistake, and the whole text is refused; without blocks they are
not given again, and the mistake goes unnoticed.
-/

namespace LintReview.Diff

open Written (Block Between ended)
open LintReview.Diff.Path (octalWritten onOneSide Forks)

/-- A file that exists before and after a change, under the same path or another. What else is
    said of it stands in remarks. Without blocks its content is the same. -/
structure KeptFile where
  previous : List Char
  path : List Char
  remarks : List Remark
  blocks : List Block
  previousNonempty : previous ≠ [] := by decide
  pathNonempty : path ≠ [] := by decide

namespace KeptFile

variable (file : KeptFile)

/-- The name before the change. -/
def oldName : List Char := octalWritten (onOneSide 'a' file.previous)

/-- The name after the change. -/
def newName : List Char := octalWritten (onOneSide 'b' file.path)

/-- A written name is that of some file. -/
theorem octalWritten_ne {side : Char} (known : side = 'a' ∨ side = 'b') (path : List Char) :
    octalWritten (onOneSide side path) ≠ [] ∧ octalWritten (onOneSide side path) ≠ noFile := by
  have letter : side ≠ '/' := by rcases known with rfl | rfl <;> decide
  rw [Path.octalWritten_side known]
  by_cases bare : path.all Path.isBare = true
  · rw [if_pos bare]
    exact ⟨List.cons_ne_nil _ _, Written.side_ne_noFile _ letter⟩
  · rw [if_neg bare]
    exact ⟨List.cons_ne_nil _ _, Written.side_ne_noFile _ (by decide)⟩

/-- The header of the file. A name with a blank has a tab behind it where it is given again. -/
def header : FileHeader where
  oldName := file.oldName
  newName := file.newName
  presence := .kept
  remarks := file.remarks
  oldTab := file.oldName.contains ' '
  newTab := file.newName.contains ' '
  oldNonempty := (octalWritten_ne (.inl rfl) file.previous).1
  newNonempty := (octalWritten_ne (.inr rfl) file.path).1
  oldField := Path.isField_octalWritten _
  newField := Path.isField_octalWritten _
  oldReal := (octalWritten_ne (.inl rfl) file.previous).2
  newReal := (octalWritten_ne (.inr rfl) file.path).2

/-- The opening line. -/
def openingLine : List Char := "diff --git ".toList ++ (file.oldName ++ ' ' :: file.newName)

/-- The names again and the blocks, if there are any. -/
def content : List (List Char) :=
  if file.blocks.isEmpty then []
  else file.header.nameLines ++ file.blocks.flatMap Block.written

/-- The lines that are written for the file. -/
def written : List (List Char) :=
  file.openingLine :: (file.remarks.map Remark.written ++ file.content)

/-- The text that is written for files. -/
def text (files : List KeptFile) : String :=
  String.ofList ((files.flatMap KeptFile.written).flatMap fun line => line ++ ['\n'])

/-- What a change is to say of the file. -/
def entry : String × Patch :=
  (String.ofList file.path, ⟨String.ofList file.path, file.blocks.map Block.span,
    if file.previous = file.path then .modified else .renamed (String.ofList file.previous)⟩)

/-- The numbers of the blocks can be read. A single block has a line on both sides, or starts
    behind row zero where it has none. -/
structure Legible : Prop where
  readable : ∀ block ∈ file.blocks, block.Readable
  fromSome : ∀ block, file.blocks = [block] → ¬ (block.oldStart = 0 ∧ block.oldLines = 0)
  toSome : ∀ block, file.blocks = [block] → ¬ (block.newStart = 0 ∧ block.newLines = 0)

/-- The section that the file is read as. -/
def read : Section := ⟨file.oldName, file.newName, file.blocks.map Block.read⟩

/-! ## Lines -/

/-- No line of the file holds a newline of its own. -/
theorem written_single : ∀ line ∈ file.written, '\n' ∉ line := by
  have opening : '\n' ∉ file.openingLine := by
    have oldName : '\n' ∉ file.oldName := (Path.isField_octalWritten _).2
    have newName : '\n' ∉ file.newName := (Path.isField_octalWritten _).2
    unfold openingLine
    simp [oldName, newName]
  have remarks : ∀ line ∈ file.remarks.map Remark.written, '\n' ∉ line := by
    intro line member
    obtain ⟨⟨kind, text⟩, -, rfl⟩ := List.mem_map.mp member
    have lead : '\n' ∉ kind.lead := by cases kind <;> decide
    simp [Remark.written, lead, text.single]
  have names : ∀ line ∈ file.header.nameLines, '\n' ∉ line := by
    have source : '\n' ∉ file.header.source := file.header.isField_source.2
    have target : '\n' ∉ file.header.target := file.header.isField_target.2
    have behind (tab : Bool) : '\n' ∉ FileHeader.behind tab := by cases tab <;> decide
    simp [FileHeader.nameLines, source, target, behind]
  have content : ∀ line ∈ file.content, '\n' ∉ line := by
    intro line member
    rw [KeptFile.content] at member
    split at member
    · cases member
    · rcases List.mem_append.mp member with name | inBlock
      · exact names line name
      · obtain ⟨block, -, part⟩ := List.mem_flatMap.mp inBlock
        exact block.written_single line part
  exact List.forall_mem_cons.mpr ⟨opening, List.forall_mem_append.mpr ⟨remarks, content⟩⟩

/-! ## Reading -/

variable {file}

/-- The opening line of the file begins a section. -/
theorem step_opening (file : KeptFile) {reader : Reader} (between : Between reader) :
    ∃ left right, reader.step (file.openingLine ++ ['\n']) =
        .ok ⟨reader.files, reader.source, .header ⟨left, right, []⟩⟩ ∧
      (¬ Forks file.path → left = file.oldName ∧ right = file.newName) ∧
      (Forks file.path → ∃ other, Path.read right = .ok other ∧ ¬ Forks other) := by
  obtain ⟨left, right, names, cut⟩ :=
    openingNames?_octal file.previousNonempty file.pathNonempty
  have row : Row.ofLine (file.openingLine ++ ['\n']) = .opening left right := by
    have names : openingNames? (file.oldName ++ ' ' :: file.newName ++ ['\n']) =
        some (left, right) := names
    unfold openingLine
    rw [Row.ofLine, List.append_assoc, Written.after?_lead, Option.bind_some, names]
  refine ⟨left, right, ?_, cut⟩
  rw [Written.step_between between, row]
  rfl

/-- The section is on a path that does not fork. -/
def Tame (found : Section) : Prop := ∃ other, Path.read found.target = .ok other ∧ ¬ Forks other

/-- The section of a file whose new path does not fork is on the path of the file. -/
theorem tame_read (clear : ¬ Forks file.path) : Tame file.read :=
  ⟨file.path, Path.read_octalWritten (.inr rfl) file.path, clear⟩

/-- The names that are given again and the blocks, behind the names of the opening line. With
    blocks these must be the names that are given again, and the text is refused otherwise. -/
theorem run_content (legible : file.Legible) {complete : List Section}
    {source : Option (List Char)} {left right : List Char}
    (clear : ¬ Forks file.path → left = file.oldName ∧ right = file.newName)
    (forked : Forks file.path → ∃ other, Path.read right = .ok other ∧ ¬ Forks other) :
    (Forks file.path ∧ file.blocks ≠ [] ∧
      Reader.run ⟨complete, source, .header ⟨left, right, []⟩⟩ (ended file.content) =
        .error (.unpairedTarget file.header.targetLine)) ∨
    ∃ (last : Reader) (found : Section),
      Reader.run ⟨complete, source, .header ⟨left, right, []⟩⟩ (ended file.content) = .ok last ∧
      Between last ∧ last.files = complete ++ [found] ∧ Tame found ∧
      (¬ Forks file.path → found = file.read) ∧ (Forks file.path → file.blocks = []) := by
  by_cases empty : file.blocks = []
  · have nothing : file.content = [] := by rw [content, empty, List.isEmpty_nil, if_pos rfl]
    rw [nothing]
    have outside : Between ⟨complete, source, .header ⟨left, right, []⟩⟩ := by
      intro current hunk oldLeft newLeft inside
      exact Phase.noConfusion inside
    have whole : ¬ Forks file.path → ⟨left, right, []⟩ = file.read := by
      intro forks
      obtain ⟨rfl, rfl⟩ := clear forks
      rw [read, empty, List.map_nil]
    refine .inr ⟨_, _, rfl, outside, rfl, ?tame, whole, fun _ => empty⟩
    by_cases forks : Forks file.path
    · exact forked forks
    · exact whole forks ▸ tame_read forks
  · have filled : file.content = file.header.nameLines ++ file.blocks.flatMap Block.written := by
      rw [content, if_neg (by simpa using empty)]
    have names : Reader.run ⟨complete, source, .header ⟨left, right, []⟩⟩
          (ended file.header.nameLines) =
        if right = file.newName then
          .ok ⟨complete, some file.header.source, .header ⟨left, right, []⟩⟩
        else .error (.unpairedTarget file.header.targetLine) := file.header.run_nameLines _
    rw [filled]
    by_cases forks : Forks file.path
    · left
      refine ⟨forks, empty, ?_⟩
      apply Written.run_ended_append_error
      rw [names, if_neg]
      intro same
      obtain ⟨other, misread, tame⟩ := forked forks
      have whole : Path.read right = .ok file.path := by
        rw [same]
        exact Path.read_octalWritten (.inr rfl) file.path
      cases misread.symm.trans whole
      exact tame forks
    · right
      obtain ⟨rfl, rfl⟩ := clear forks
      rw [if_pos rfl] at names
      refine ⟨⟨complete, some file.header.source, .body file.read⟩, file.read, ?_,
        Written.between_body _ _ _, rfl, tame_read forks, fun _ => rfl,
        fun other => absurd other forks⟩
      rw [Written.run_ended_append _ names, Written.run_firstBlocks empty legible.readable]
      rfl

/-- What is read for a file. With blocks and a new path that forks the text is refused. -/
theorem run_written (legible : file.Legible) {reader : Reader} (between : Between reader) :
    (Forks file.path ∧ file.blocks ≠ [] ∧
      reader.run (ended file.written) = .error (.unpairedTarget file.header.targetLine)) ∨
    ∃ (last : Reader) (found : Section), reader.run (ended file.written) = .ok last ∧
      Between last ∧ last.files = reader.files ++ [found] ∧ Tame found ∧
      (¬ Forks file.path → found = file.read) ∧ (Forks file.path → file.blocks = []) := by
  obtain ⟨left, right, opened, clear, forked⟩ := step_opening file between
  have quiet : ∀ line ∈ file.remarks.map Remark.written,
      Row.ofLine (line ++ ['\n']) = .other := by
    intro line member
    obtain ⟨remark, -, rfl⟩ := List.mem_map.mp member
    exact remark.quiet
  have begun : reader.run (ended file.written) =
      Reader.run ⟨reader.files, reader.source, .header ⟨left, right, []⟩⟩ (ended file.content) :=
    (Written.run_cons _ opened).trans (Written.run_ended_append _ (Written.run_quiet quiet _))
  rw [begun]
  exact run_content legible clear forked

/-- What is read for files, one after the other. Either a file with blocks has a new path that
    forks, and the text is refused, or every file has its section.

    By induction on the files. Each is read from wherever the reader stands between blocks. -/
theorem run_files {files : List KeptFile} (legible : ∀ file ∈ files, file.Legible)
    {reader : Reader} (between : Between reader) :
    (∃ file ∈ files, Forks file.path ∧ file.blocks ≠ [] ∧
      reader.run (ended (files.flatMap KeptFile.written)) =
        .error (.unpairedTarget file.header.targetLine)) ∨
    ∃ (last : Reader) (found : List Section),
      reader.run (ended (files.flatMap KeptFile.written)) = .ok last ∧ Between last ∧
      last.files = reader.files ++ found ∧ (∀ one ∈ found, Tame one) ∧
      ((∀ file ∈ files, ¬ Forks file.path) → found = files.map KeptFile.read) ∧
      ∀ file ∈ files, Forks file.path → file.blocks = [] := by
  induction files generalizing reader with
  | nil => exact .inr ⟨reader, [], rfl, between, by simp, by simp, fun _ => rfl, by simp⟩
  | cons file rest inductionHypothesis =>
    obtain ⟨one, others⟩ := List.forall_mem_cons.mp legible
    rw [List.flatMap_cons]
    rcases run_written one between with ⟨forks, filled, refused⟩ | read
    · exact .inl ⟨file, List.mem_cons_self, forks, filled,
        Written.run_ended_append_error _ refused⟩
    · obtain ⟨next, found, ran, outside, files_eq, tame, whole, bare⟩ := read
      rw [Written.run_ended_append _ ran]
      rcases inductionHypothesis others outside with refused | later
      · obtain ⟨other, member, failed⟩ := refused
        exact .inl ⟨other, List.mem_cons_of_mem _ member, failed⟩
      · obtain ⟨last, more, finished, ends, all_eq, allTame, allWhole, allBare⟩ := later
        refine .inr ⟨last, found :: more, finished, ends, ?_, List.forall_mem_cons.mpr
          ⟨tame, allTame⟩, ?_, List.forall_mem_cons.mpr ⟨bare, allBare⟩⟩
        · rw [all_eq, files_eq, List.append_assoc, List.singleton_append]
        · intro clear
          obtain ⟨oneClear, othersClear⟩ := List.forall_mem_cons.mp clear
          rw [whole oneClear, allWhole othersClear, List.map_cons]

/-- No line of files holds a newline of its own. -/
theorem text_single (files : List KeptFile) :
    ∀ line ∈ files.flatMap KeptFile.written, '\n' ∉ line := by
  intro line member
  obtain ⟨file, -, part⟩ := List.mem_flatMap.mp member
  exact file.written_single line part

/-- The sections of a text of files. -/
theorem sections_text {files : List KeptFile} (legible : ∀ file ∈ files, file.Legible) :
    (∃ file ∈ files, Forks file.path ∧ file.blocks ≠ [] ∧
      sections (text files).toList = .error (.unpairedTarget file.header.targetLine)) ∨
    ∃ found, sections (text files).toList = .ok found ∧ (∀ one ∈ found, Tame one) ∧
      ((∀ file ∈ files, ¬ Forks file.path) → found = files.map KeptFile.read) ∧
      ∀ file ∈ files, Forks file.path → file.blocks = [] := by
  rw [text, String.toList_ofList]
  rcases run_files legible Written.between_outside with
    ⟨file, member, forks, filled, refused⟩ | ⟨last, found, ran, between, all, rest⟩
  · exact .inl ⟨file, member, forks, filled,
      Written.sections_of_error (text_single files) refused⟩
  · refine .inr ⟨found, ?_, rest⟩
    rw [Written.sections_of_run (text_single files) ran between, all]
    rfl

/-! ## Patches -/

/-- The name of a side stands for the path. -/
theorem pathOf_octalWritten {side : Char} (known : side = 'a' ∨ side = 'b') (path : List Char) :
    pathOf (octalWritten (onOneSide side path)) = .ok (String.ofList path) := by
  rw [pathOf, Path.read_octalWritten known]

/-- The section of a file gives its entry. -/
theorem patch_read (legible : file.Legible) :
    file.read.isRemoved = false ∧ file.read.patch = .ok file.entry.2 := by
  have target : pathOf file.read.target = .ok (String.ofList file.path) :=
    pathOf_octalWritten (.inr rfl) _
  have source : pathOf file.read.source = .ok (String.ofList file.previous) :=
    pathOf_octalWritten (.inl rfl) _
  have spans : file.read.hunks.map Hunk.span = file.blocks.map Block.span := by
    simp [read, Written.Block.span_read]
  have notAdded : file.read.isAdded = false := by
    rw [Bool.eq_false_iff, ne_eq, read, Written.isAdded_blocks, not_or]
    exact ⟨(octalWritten_ne (.inl rfl) file.previous).2, fun ⟨block, single, nothing⟩ =>
      legible.fromSome block single nothing⟩
  have notRemoved : file.read.isRemoved = false := by
    rw [Bool.eq_false_iff, ne_eq, read, Written.isRemoved_blocks, not_or]
    exact ⟨(octalWritten_ne (.inr rfl) file.path).2, fun ⟨block, single, nothing⟩ =>
      legible.toSome block single nothing⟩
  refine ⟨notRemoved, ?_⟩
  simp only [Section.patch, target, source, spans, notAdded, bind, Except.bind, pure, Except.pure,
    entry, String.ofList_inj]
  rfl

/-- Files whose new paths do not fork are read back from their text. -/
theorem ofDiff_text_clear {files : List KeptFile} (legible : ∀ file ∈ files, file.Legible)
    (unique : (files.map KeptFile.path).Nodup) (clear : ∀ file ∈ files, ¬ Forks file.path) :
    Change.ofDiff (text files) = .ok (files.map KeptFile.entry) := by
  rcases sections_text legible with ⟨file, member, forks, -⟩ | ⟨found, accepted, -, whole, -⟩
  · exact absurd forks (clear file member)
  · have keys : ((files.map KeptFile.entry).map Prod.fst).Nodup := by
      rw [List.map_map]
      exact List.pairwise_map.mpr ((List.pairwise_map.mp unique).imp fun differ same =>
        differ (String.ofList_injective same))
    have entries : files.filterMap (fun file => some file.entry) = files.map KeptFile.entry := by
      rw [List.filterMap_eq_map']
    have added : Change.addSections [] (files.map KeptFile.read) =
        .ok ([] ++ files.filterMap fun file => some file.entry) := by
      refine Change.addSections_entries (fun _ _ gone => ?_) (fun file member entry given => ?_) ?_
      · cases gone
      · cases given
        obtain ⟨remains, made⟩ := patch_read (legible file member)
        exact ⟨remains, made, rfl⟩
      · rw [entries]
        exact keys
    rw [ofDiff_of_sections accepted, whole clear, added, entries, List.nil_append]

/-- No path of an accepted change forks. -/
theorem not_forks_of_find? {files : List KeptFile} (legible : ∀ file ∈ files, file.Legible)
    {change : Change} (accepted : Change.ofDiff (text files) = .ok change) {path : String}
    {patch : Patch} (kept : change.find? path = some patch) : ¬ Forks path.toList := by
  rcases sections_text legible with ⟨file, -, -, -, refused⟩ | ⟨found, read, tame, -⟩
  · rw [ofDiff_of_error refused] at accepted
    cases accepted
  · obtain ⟨all, sections_eq, origin⟩ := find?_ofDiff accepted
    cases read.symm.trans sections_eq
    obtain ⟨one, last, -⟩ := origin path patch kept
    obtain ⟨member, patched⟩ := sectionOf?_eq_some last
    obtain ⟨other, otherRead, otherTame⟩ := tame one member
    rw [Section.patchedPath?] at patched
    split at patched
    · cases patched
    · rw [pathOf, otherRead] at patched
      obtain rfl : String.ofList other = path := Option.some.inj patched
      rw [String.toList_ofList]
      exact otherTame

/-- A file whose new path forks has no entry in an accepted change. -/
theorem clear_of_ofDiff {files : List KeptFile} (legible : ∀ file ∈ files, file.Legible)
    (accepted : Change.ofDiff (text files) = .ok (files.map KeptFile.entry)) :
    ∀ file ∈ files, ¬ Forks file.path := by
  intro file member
  have listed : (Change.find? (files.map KeptFile.entry) file.entry.1).isSome = true :=
    List.lookup_isSome_iff.mpr ⟨file.entry, List.mem_map_of_mem member, by simp⟩
  obtain ⟨patch, kept⟩ := Option.isSome_iff_exists.mp listed
  have tame := not_forks_of_find? legible accepted kept
  rwa [entry, String.toList_ofList] at tame

/-- A file with blocks whose new path forks makes the whole text unreadable. -/
theorem ofDiff_text_forked {files : List KeptFile} (legible : ∀ file ∈ files, file.Legible)
    (forked : ∃ file ∈ files, Forks file.path ∧ file.blocks ≠ []) :
    ∃ file ∈ files, Forks file.path ∧ Change.ofDiff (text files) =
      .error (.malformed (.unpairedTarget file.header.targetLine)) := by
  rcases sections_text legible with ⟨file, member, forks, -, refused⟩ | ⟨found, -, -, -, bare⟩
  · exact ⟨file, member, forks, ofDiff_of_error refused⟩
  · obtain ⟨file, member, forks, filled⟩ := forked
    exact absurd (bare file member forks) filled

end KeptFile

/-- Names in octal digits are read back, whatever the path. A change to files that exist before
    and after it is read back from its text exactly if no new path forks. If the file of such a
    path has blocks, the whole text is refused. -/
theorem octal_names_read (path : List Char) {files : List KeptFile}
    (legible : ∀ file ∈ files, file.Legible) (unique : (files.map KeptFile.path).Nodup) :
    (∀ side, side = 'a' ∨ side = 'b' →
      Path.read (octalWritten (onOneSide side path)) = .ok path) ∧
    (Change.ofDiff (KeptFile.text files) = .ok (files.map KeptFile.entry) ↔
      ∀ file ∈ files, ¬ Forks file.path) ∧
    ((∃ file ∈ files, Forks file.path ∧ file.blocks ≠ []) →
      ∃ file ∈ files, Forks file.path ∧ Change.ofDiff (KeptFile.text files) =
        .error (.malformed (.unpairedTarget file.header.targetLine))) := by
  refine ⟨fun side known => Path.read_octalWritten known path, ?_, ?_⟩
  · exact ⟨KeptFile.clear_of_ofDiff legible, KeptFile.ofDiff_text_clear legible unique⟩
  · exact KeptFile.ofDiff_text_forked legible

/-- Nothing is on one line. -/
theorem nil_single : '\n' ∉ ([] : List Char) := List.not_mem_nil

/-- A letter is on one line. -/
theorem letter_single : '\n' ∉ "a".toList := by decide +kernel

/-- A block with a line on both sides. -/
def oneLineBlock : Block where
  oldStart := 1
  newStart := 1
  heading := ⟨[], nil_single⟩
  lines := [Written.line .removed "a" letter_single, Written.line .added "b"]
  nonempty := List.cons_ne_nil _ _

/-- A file renamed to a name with a double quote and a character that is not in ASCII, and a file
    with a blank in its name. -/
def spelledFiles : List KeptFile :=
  [{ previous := "old name.cpp".toList
     path := "t\"é.cpp".toList
     remarks := [⟨.similarity, ⟨"90%".toList, by decide +kernel⟩⟩]
     blocks := [oneLineBlock]
     previousNonempty := by decide +kernel
     pathNonempty := by decide +kernel },
   { previous := "x b.h".toList
     path := "x b.h".toList
     remarks := []
     blocks := [oneLineBlock]
     previousNonempty := by decide +kernel
     pathNonempty := by decide +kernel }]

/-- The block has a line on both sides, and short numbers. -/
theorem oneLineBlock_legible {file : KeptFile} (only : file.blocks = [oneLineBlock]) :
    file.Legible := by
  refine ⟨?readable, ?fromSome, ?toSome⟩
  case readable =>
    rw [only]
    exact List.forall_mem_singleton.mpr (by decide +kernel)
  case fromSome =>
    rintro block single ⟨nothing, -⟩
    rw [only] at single
    cases single
    cases nothing
  case toSome =>
    rintro block single ⟨nothing, -⟩
    rw [only] at single
    cases single
    cases nothing

/-- The two files are read back from their text, and so is the name of the first. -/
theorem octal_names_read_spelled :
    Path.read "\"b/t\\\"\\303\\251.cpp\"".toList = .ok "t\"é.cpp".toList ∧
    spelledFiles.flatMap KeptFile.written =
      ["diff --git a/old name.cpp \"b/t\\\"\\303\\251.cpp\"", "similarity index 90%",
        "--- a/old name.cpp\t", "+++ \"b/t\\\"\\303\\251.cpp\"", "@@ -1 +1 @@", "-a", "+b",
        "diff --git a/x b.h b/x b.h", "--- a/x b.h\t", "+++ b/x b.h\t", "@@ -1 +1 @@", "-a",
        "+b"].map String.toList ∧
    Change.ofDiff (KeptFile.text spelledFiles) = .ok
      [("t\"é.cpp", ⟨"t\"é.cpp", [⟨"@@ -1,1 +1,1 @@", 1, 1, 1, 1, 2⟩], .renamed "old name.cpp"⟩),
        ("x b.h", ⟨"x b.h", [⟨"@@ -1,1 +1,1 @@", 1, 1, 1, 1, 2⟩], .modified⟩)] := by
  have legible : ∀ file ∈ spelledFiles, file.Legible :=
    List.forall_mem_cons.mpr ⟨oneLineBlock_legible rfl,
      List.forall_mem_singleton.mpr (oneLineBlock_legible rfl)⟩
  have unique : (spelledFiles.map KeptFile.path).Nodup := by decide +kernel
  have clear : ∀ file ∈ spelledFiles, ¬ Forks file.path := by decide +kernel
  obtain ⟨names, clear_iff, -⟩ := octal_names_read "t\"é.cpp".toList legible unique
  refine ⟨?name, by decide +kernel, ?change⟩
  case name =>
    rw [← names 'b' (.inr rfl)]
    rfl
  case change =>
    rw [clear_iff.mpr clear]
    rfl

/-- A file without remarks. -/
def plainFile (previous path : String) (blocks : List Block)
    (previousNonempty : previous.toList ≠ [] := by decide +kernel)
    (pathNonempty : path.toList ≠ [] := by decide +kernel) : KeptFile :=
  ⟨previous.toList, path.toList, [], blocks, previousNonempty, pathNonempty⟩

/-- A change to a file whose path forks is refused. A file that is renamed to such a path as it is
    has another path afterwards. -/
theorem forked_names_lost :
    Change.ofDiff (KeptFile.text [plainFile "x b/y.c" "x b/y.c" [oneLineBlock]]) =
      .error (.malformed (.unpairedTarget "+++ b/x b/y.c\t\n".toList)) ∧
    Change.ofDiff (KeptFile.text [plainFile "x.c" "z b/w.c" []]) =
      .ok [("w.c", ⟨"w.c", [], .renamed "x.c b/z"⟩)] ∧
    [plainFile "x.c" "z b/w.c" []].map KeptFile.entry =
      [("z b/w.c", ⟨"z b/w.c", [], .renamed "x.c"⟩)] :=
  ⟨rfl, rfl, rfl⟩

end LintReview.Diff
