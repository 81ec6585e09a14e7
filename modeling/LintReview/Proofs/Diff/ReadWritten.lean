import LintReview.Proofs.Diff.HunkLengths
import LintReview.Proofs.Diff.WrittenRows

/-!
# Reading written changes

Reading the text of written changes gives the changes back. Inside a block the reader knows
how many lines are to come, so it never asks what a line reads like; the block ends with its
last line, and the reader is again among the blocks of the file. Each file's lines take the
reader from wherever it stands between blocks to the end of the file, with one more section
to its account. The sections give the patches, one for each file that is not deleted.
-/

namespace LintReview.Diff.Written

/-- Lines with their newlines. -/
def ended (lines : List (List Char)) : List (List Char) := lines.map fun line => line ++ ['\n']

/-- One line that can be read is read first. -/
theorem run_cons {reader next : Reader} {line : List Char} (rest : List (List Char))
    (stepped : reader.step line = .ok next) : reader.run (line :: rest) = next.run rest := by
  simp only [Reader.run, stepped, bind, Except.bind]

/-- Lines that can be read are read first. -/
theorem run_ended_append {reader next : Reader} {first : List (List Char)}
    (second : List (List Char)) (ran : reader.run (ended first) = .ok next) :
    reader.run (ended (first ++ second)) = next.run (ended second) := by
  rw [ended, List.map_append, Reader.run_append]
  exact congrArg (Except.bind · fun next => next.run (ended second)) ran

/-- One line that cannot be read ends the reading. -/
theorem run_cons_error {reader : Reader} {line : List Char} {problem : Error}
    (rest : List (List Char)) (failed : reader.step line = .error problem) :
    reader.run (line :: rest) = .error problem := by
  simp only [Reader.run, failed, bind, Except.bind]

/-- Lines that cannot be read end the reading. -/
theorem run_ended_append_error {reader : Reader} {first : List (List Char)} {problem : Error}
    (second : List (List Char)) (failed : reader.run (ended first) = .error problem) :
    reader.run (ended (first ++ second)) = .error problem := by
  rw [ended, List.map_append, Reader.run_append]
  exact congrArg (Except.bind · fun next => next.run (ended second)) failed

/-! ## Inside a block -/

/-- A line of a block as the reader keeps it. -/
def BlockLine.bodyLine (line : BlockLine) : BodyLine :=
  ⟨line.kind, line.content.characters ++ ['\n']⟩

/-- A row that is to come can be taken. -/
theorem takeRow_add (takes : Bool) (left : Nat) :
    takeRow takes (takes.toNat + left) = some left := by
  cases takes with
  | false => simp [takeRow]
  | true =>
    rw [Bool.toNat_true, Nat.add_comm]
    rfl

/-- A line of a block is taken by its mark, whatever it reads like. -/
theorem hunkStep_line (line : BlockLine) (file : Section) (hunk : Hunk) (oldLeft newLeft : Nat) :
    hunkStep file hunk (line.kind.inOld.toNat + oldLeft) (line.kind.inNew.toNat + newLeft)
        (mark line.kind :: line.content.characters ++ ['\n']) =
      .ok (Phase.afterLine file { hunk with body := hunk.body ++ [line.bodyLine] }
        oldLeft newLeft) := by
  have read : bodyLine? (mark line.kind :: line.content.characters ++ ['\n']) =
      some (some line.kind, line.content.characters ++ ['\n']) := by
    cases line.kind <;> rfl
  simp only [hunkStep, read, takeRow_add]
  rfl

/-- A hunk that still awaits a line stays open. -/
theorem afterLine_pending {file : Section} {hunk : Hunk} {oldLeft newLeft : Nat}
    (pending : 0 < oldLeft + newLeft) :
    Phase.afterLine file hunk oldLeft newLeft = .hunk file hunk oldLeft newLeft := by
  unfold Phase.afterLine
  split
  · simp at pending
  · rfl

variable {complete : List Section} {source : Option (List Char)}

/-- Behind a line of a block a marker changes nothing, neither inside the block nor after
    its last line. -/
theorem step_marker (file : Section) (hunk : Hunk) (oldLeft newLeft : Nat) :
    Reader.step ⟨complete, source, Phase.afterLine file hunk oldLeft newLeft⟩
        (marker ++ ['\n']) =
      .ok ⟨complete, source, Phase.afterLine file hunk oldLeft newLeft⟩ := by
  by_cases pending : 0 < oldLeft + newLeft
  · have kept : hunkStep file hunk oldLeft newLeft (marker ++ ['\n']) =
        .ok (Phase.afterLine file hunk oldLeft newLeft) := rfl
    rw [afterLine_pending pending] at kept ⊢
    simp only [Reader.step, kept, bind, Except.bind, pure, Except.pure]
  · obtain ⟨rfl, rfl⟩ : oldLeft = 0 ∧ newLeft = 0 := by omega
    simp [Reader.step, Phase.afterLine, ofLine_marker, rowStep, Phase.file?]

/-- A line of a block, with the marker that it may have, is one line of the hunk. -/
theorem run_line (line : BlockLine) (file : Section) (hunk : Hunk) (oldLeft newLeft : Nat) :
    Reader.run ⟨complete, source, .hunk file hunk (line.kind.inOld.toNat + oldLeft)
        (line.kind.inNew.toNat + newLeft)⟩ (ended line.written) =
      .ok ⟨complete, source, Phase.afterLine file
        { hunk with body := hunk.body ++ [line.bodyLine] } oldLeft newLeft⟩ := by
  have stepped : Reader.step ⟨complete, source, .hunk file hunk
        (line.kind.inOld.toNat + oldLeft) (line.kind.inNew.toNat + newLeft)⟩
        (mark line.kind :: line.content.characters ++ ['\n']) =
      .ok ⟨complete, source, Phase.afterLine file
        { hunk with body := hunk.body ++ [line.bodyLine] } oldLeft newLeft⟩ := by
    simp only [Reader.step, hunkStep_line, bind, Except.bind, pure, Except.pure]
  unfold BlockLine.written
  cases line.unterminated with
  | false => exact run_cons [] stepped
  | true =>
    rw [if_pos rfl]
    refine (run_cons [marker ++ ['\n']] stepped).trans ?_
    exact run_cons [] (step_marker file _ oldLeft newLeft)

/-- Every line takes a row of the old or of the new file. -/
theorem lines_pending (line : BlockLine) (rest : List BlockLine) :
    0 < ((line :: rest).countP fun line => line.kind.inOld) +
      (line :: rest).countP fun line => line.kind.inNew := by
  have oneSide : 0 < line.kind.inOld.toNat + line.kind.inNew.toNat := by
    cases line.kind <;> decide
  rw [countP_cons_toNat, countP_cons_toNat]
  omega

/-- The lines of a block fill its hunk.

    By induction on the lines. What is left to come is counted by the lines that follow, so
    the hunk is complete after the last line and not before. -/
theorem run_lines {lines : List BlockLine} (nonempty : lines ≠ []) (file : Section)
    (hunk : Hunk) :
    Reader.run ⟨complete, source, .hunk file hunk (lines.countP fun line => line.kind.inOld)
        (lines.countP fun line => line.kind.inNew)⟩
        (ended (lines.flatMap BlockLine.written)) =
      .ok ⟨complete, source, .body { file with hunks := file.hunks ++
        [{ hunk with body := hunk.body ++ lines.map BlockLine.bodyLine }] }⟩ := by
  induction lines generalizing hunk with
  | nil => exact absurd rfl nonempty
  | cons line rest inductionHypothesis =>
    rw [countP_cons_toNat, countP_cons_toNat, List.flatMap_cons,
      run_ended_append _ (run_line line ..)]
    cases rest with
    | nil => rfl
    | cons next more =>
      rw [afterLine_pending (lines_pending next more), inductionHypothesis (by simp)]
      simp

/-! ## Among the blocks -/

/-- The hunk that a block is read as. -/
def Block.read (block : Block) : Hunk := block.hunk (block.lines.map BlockLine.bodyLine)

/-- The header of a block opens its hunk, in the header of a file and after a block. -/
theorem step_header {block : Block} (readable : block.Readable) {phase : Phase} {file : Section}
    (between : phase = .header file ∨ phase = .body file) :
    Reader.step ⟨complete, source, phase⟩ (block.header ++ ['\n']) =
      .ok ⟨complete, source, .hunk file (block.hunk []) block.oldLines block.newLines⟩ := by
  have opened := openHunk_header readable
  rcases between with rfl | rfl
  all_goals
    simp only [Reader.step, ofLine_header, rowStep, Phase.file?, opened, bind, Except.bind, pure,
      Except.pure]
    rfl

/-- A block is one more hunk of its file. -/
theorem run_block {block : Block} (readable : block.Readable) {phase : Phase} {file : Section}
    (between : phase = .header file ∨ phase = .body file) :
    Reader.run ⟨complete, source, phase⟩ (ended block.written) =
      .ok ⟨complete, source, .body { file with hunks := file.hunks ++ [block.read] }⟩ := by
  exact (run_cons _ (step_header readable between)).trans (run_lines block.nonempty file _)

/-- Blocks are hunks of their file, in order. -/
theorem run_blocks {blocks : List Block} (readable : ∀ block ∈ blocks, block.Readable)
    (file : Section) :
    Reader.run ⟨complete, source, .body file⟩ (ended (blocks.flatMap Block.written)) =
      .ok ⟨complete, source, .body { file with hunks := file.hunks ++ blocks.map Block.read }⟩ := by
  induction blocks generalizing file with
  | nil => simp [ended, Reader.run]
  | cons block rest inductionHypothesis =>
    obtain ⟨one, others⟩ := List.forall_mem_cons.mp readable
    rw [List.flatMap_cons, run_ended_append _ (run_block one (.inr rfl)),
      inductionHypothesis others]
    simp

/-- The blocks behind the header of a file are its hunks. -/
theorem run_firstBlocks {blocks : List Block} (nonempty : blocks ≠ [])
    (readable : ∀ block ∈ blocks, block.Readable) (file : Section) :
    Reader.run ⟨complete, source, .header file⟩ (ended (blocks.flatMap Block.written)) =
      .ok ⟨complete, source, .body { file with hunks := file.hunks ++ blocks.map Block.read }⟩ := by
  obtain ⟨first, rest, rfl⟩ := List.exists_cons_of_ne_nil nonempty
  obtain ⟨one, others⟩ := List.forall_mem_cons.mp readable
  rw [List.flatMap_cons, run_ended_append _ (run_block one (.inl rfl)), run_blocks others]
  simp

/-! ## In the header of a file -/

/-- Lines that say nothing change nothing. -/
theorem run_quiet {lines : List (List Char)}
    (quiet : ∀ line ∈ lines, Row.ofLine (line ++ ['\n']) = .other) (file : Section) :
    Reader.run ⟨complete, source, .header file⟩ (ended lines) =
      .ok ⟨complete, source, .header file⟩ := by
  induction lines with
  | nil => rfl
  | cons line rest inductionHypothesis =>
    obtain ⟨one, others⟩ := List.forall_mem_cons.mp quiet
    have stepped : Reader.step ⟨complete, source, .header file⟩ (line ++ ['\n']) =
        .ok ⟨complete, source, .header file⟩ := by
      simp only [Reader.step, one, rowStep]
    exact (run_cons _ stepped).trans (inductionHypothesis others)

/-- The notices on a mode say nothing. -/
theorem ModeChange.quiet_notices (mode : ModeChange) :
    ∀ line ∈ mode.notices, Row.ofLine (line ++ ['\n']) = .other := by
  cases mode with
  | kept mode => simp [ModeChange.notices]
  | changed old new =>
    have leads : "old mode ".toList.head? = some 'o' := rfl
    have oldQuiet : Row.ofLine ("old mode ".toList ++ old.written ++ ['\n']) = .other :=
      ofLine_other 'o' (head?_lead leads _) (by decide) ['\n']
    have newQuiet : Row.ofLine ("new mode ".toList ++ new.written ++ ['\n']) = .other := by
      cases new <;> rfl
    exact List.forall_mem_cons.mpr ⟨oldQuiet, List.forall_mem_singleton.mpr newQuiet⟩

/-- The notices on a new name say nothing. -/
theorem quiet_renaming (previous name : Name) (similarity : Nat) :
    ∀ line ∈ ["similarity index ".toList ++ number similarity ++ ['%'],
      "rename from ".toList ++ previous.characters, "rename to ".toList ++ name.characters],
      Row.ofLine (line ++ ['\n']) = .other := by
  have index : "similarity index ".toList.head? = some 's' := rfl
  have before : "rename from ".toList.head? = some 'r' := rfl
  have after : "rename to ".toList.head? = some 'r' := rfl
  refine List.forall_mem_cons.mpr
    ⟨ofLine_other 's' (head?_lead (head?_lead index _) _) (by decide) ['\n'], ?_⟩
  refine List.forall_mem_cons.mpr
    ⟨ofLine_other 'r' (head?_lead before _) (by decide) ['\n'], ?_⟩
  exact List.forall_mem_singleton.mpr (ofLine_other 'r' (head?_lead after _) (by decide) ['\n'])

/-- After the notices the names are those before and after the change. -/
theorem run_notices (file : FileChange) :
    Reader.run ⟨complete, source, .header ⟨file.oldName, file.newName, []⟩⟩
        (ended (file.kind.notices file.name)) =
      .ok ⟨complete, source, .header ⟨file.source, file.target, []⟩⟩ := by
  unfold FileChange.source FileChange.target
  cases file.kind with
  | added mode =>
    refine run_cons [] ?_
    simp only [Reader.step, ofLine_newFile, rowStep]
  | deleted mode =>
    refine run_cons [] ?_
    simp only [Reader.step, ofLine_deletedFile, rowStep]
  | modified mode => exact run_quiet mode.quiet_notices _
  | renamed previous similarity mode =>
    refine run_quiet (fun line member => ?_) _
    rcases List.mem_append.mp member with onMode | onName
    · exact mode.quiet_notices line onMode
    · exact quiet_renaming previous file.name similarity line onName

/-- The old name of a file is a name of the old side. -/
theorem FileChange.oldName_side (file : FileChange) :
    ∃ previous : Name, file.oldName = 'a' :: '/' :: previous.characters := by
  unfold FileChange.oldName
  cases file.kind with
  | renamed previous similarity mode => exact ⟨previous, rfl⟩
  | added mode => exact ⟨file.name, rfl⟩
  | deleted mode => exact ⟨file.name, rfl⟩
  | modified mode => exact ⟨file.name, rfl⟩

/-- A name with its side in front is one field. -/
theorem isField_side (name : Name) {side : Char} (tab : side ≠ '\t') (newline : side ≠ '\n') :
    IsField (side :: '/' :: name.characters) :=
  (name.isField.cons (by decide) (by decide)).cons tab newline

/-- The name of no file is one field. -/
theorem isField_noFile : IsField noFile := by
  constructor <;> decide

/-- The name before the change is one field. -/
theorem FileChange.isField_source (file : FileChange) : IsField file.source := by
  obtain ⟨previous, same⟩ := file.oldName_side
  unfold FileChange.source
  split
  · exact isField_noFile
  · rw [same]
    exact isField_side previous (by decide) (by decide)

/-- The name after the change is one field. -/
theorem FileChange.isField_target (file : FileChange) : IsField file.target := by
  unfold FileChange.target
  split
  · exact isField_noFile
  · exact isField_side file.name (by decide) (by decide)

/-! ## Files -/

/-- The section that a file is read as. -/
def FileChange.read (file : FileChange) : Section :=
  ⟨file.source, file.target, file.blocks.map Block.read⟩

/-- The reader stands in no block. -/
def Between (reader : Reader) : Prop :=
  ∀ file hunk oldLeft newLeft, reader.phase ≠ .hunk file hunk oldLeft newLeft

/-- Outside blocks a line is read by its sort. -/
theorem step_between {reader : Reader} (between : Between reader) (line : List Char) :
    reader.step line = rowStep reader line (Row.ofLine line) := by
  rw [Reader.step]
  split
  · next inside => exact absurd inside (between _ _ _ _)
  · rfl

/-- The opening line of a file closes the file before. -/
theorem step_opening (file : FileChange) {reader : Reader} (between : Between reader) :
    reader.step ("diff --git ".toList ++ (file.oldName ++ ' ' :: file.newName) ++ ['\n']) =
      .ok ⟨reader.files, reader.source, .header ⟨file.oldName, file.newName, []⟩⟩ := by
  obtain ⟨previous, same⟩ := file.oldName_side
  rw [same, FileChange.newName, step_between between, ofLine_opening]
  rfl

/-- The two names before the first block are those of the header. -/
theorem run_names (file : FileChange) :
    Reader.run ⟨complete, source, .header ⟨file.source, file.target, []⟩⟩
        (ended ["--- ".toList ++ file.source, "+++ ".toList ++ file.target]) =
      .ok ⟨complete, some file.source, .header ⟨file.source, file.target, []⟩⟩ := by
  have old : Reader.step ⟨complete, source, .header ⟨file.source, file.target, []⟩⟩
        ("--- ".toList ++ file.source ++ ['\n']) =
      .ok ⟨complete, some file.source, .header ⟨file.source, file.target, []⟩⟩ := by
    simp only [Reader.step, ofLine_source file.isField_source, rowStep]
  have new : Reader.step ⟨complete, some file.source, .header ⟨file.source, file.target, []⟩⟩
        ("+++ ".toList ++ file.target ++ ['\n']) =
      .ok ⟨complete, some file.source, .header ⟨file.source, file.target, []⟩⟩ := by
    simp only [Reader.step, ofLine_target file.isField_target, rowStep, Phase.file?, if_true]
  exact (run_cons _ old).trans (run_cons [] new)

/-- Once the header of a file is read, its blocks are left. -/
theorem run_fileHeader (file : FileChange) {reader : Reader} (between : Between reader) :
    reader.run (ended file.written) =
      Reader.run ⟨reader.files, some file.source, .header ⟨file.source, file.target, []⟩⟩
        (ended (file.blocks.flatMap Block.written)) := by
  have leads : "index ".toList.head? = some 'i' := rfl
  have objects : Row.ofLine (file.objects ++ ['\n']) = .other :=
    ofLine_other 'i' (head?_lead leads _) (by decide) ['\n']
  have header : Reader.run ⟨reader.files, reader.source, .header ⟨file.oldName, file.newName, []⟩⟩
        (ended (file.kind.notices file.name ++ ([file.objects] ++
          ["--- ".toList ++ file.source, "+++ ".toList ++ file.target]))) =
      .ok ⟨reader.files, some file.source, .header ⟨file.source, file.target, []⟩⟩ := by
    rw [run_ended_append _ (run_notices file),
      run_ended_append _ (run_quiet (List.forall_mem_singleton.mpr objects) _), run_names]
  refine (run_cons _ (step_opening file between)).trans ?_
  rw [← run_ended_append _ header]
  simp [ended]

/-- The lines of a file take the reader to the end of the file. -/
theorem run_file (file : FileChange) (readable : ∀ block ∈ file.blocks, block.Readable)
    {reader : Reader} (between : Between reader) :
    reader.run (ended file.written) =
      .ok ⟨reader.files, some file.source, .body file.read⟩ := by
  rw [run_fileHeader file between, run_firstBlocks file.nonempty readable]
  rfl

/-- After a file the reader stands in no block. -/
theorem between_body (complete : List Section) (source : Option (List Char)) (file : Section) :
    Between ⟨complete, source, .body file⟩ := by
  intro current hunk oldLeft newLeft inside
  exact Phase.noConfusion inside

/-- The lines of files are read one file after the other.

    By induction on the files. Each is read from wherever the reader stands between blocks,
    and adds its section to those that the reader already has. -/
theorem run_files {files : List FileChange}
    (readable : ∀ file ∈ files, ∀ block ∈ file.blocks, block.Readable) {reader : Reader}
    (between : Between reader) :
    ∃ last : Reader, reader.run (ended (files.flatMap FileChange.written)) = .ok last ∧
      Between last ∧ last.files = reader.files ++ files.map FileChange.read := by
  induction files generalizing reader with
  | nil => exact ⟨reader, rfl, between, by simp⟩
  | cons file rest inductionHypothesis =>
    obtain ⟨one, others⟩ := List.forall_mem_cons.mp readable
    obtain ⟨last, ran, outside, sections⟩ := inductionHypothesis others (between_body _ _ _)
    refine ⟨last, ?_, outside, ?_⟩
    · rw [List.flatMap_cons, run_ended_append _ (run_file file one between), ran]
    · rw [sections]
      simp [Reader.files, Phase.file?]

/-- Between blocks the reader can stop. -/
theorem finish_between {reader : Reader} (between : Between reader) :
    reader.finish = .ok reader.files := by
  unfold Reader.finish
  split
  · rename_i inside
    exact absurd inside (between _ _ _ _)
  · rename_i inside
    exact absurd inside (between _ _ _ _)
  · rfl

end LintReview.Diff.Written
