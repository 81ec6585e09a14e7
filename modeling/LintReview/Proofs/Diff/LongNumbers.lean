import LintReview.Proofs.Diff.ReadWritten

/-!
# Headers with long numbers

A number of a block's header with more digits than are read at most ends the reading of the
whole text. What stands before the block is read as usual, and what stands after it is not
looked at.
-/

namespace LintReview.Diff.Written

/-- The reading ended at a number that has too many digits. -/
def TooLong {α : Type} (outcome : Except Error α) : Prop :=
  ∃ digits, Text.maxDigits < digits ∧ outcome = .error (.number (.tooLong digits))

/-- A number with too many digits is refused. -/
theorem headerNumber_tooLong {value : Nat} (long : Text.maxDigits < (number value).length) :
    TooLong (headerNumber (number value)) := by
  refine ⟨(number value).length, long, ?_⟩
  rw [headerNumber, Text.readDigits, if_pos long]
  rfl

/-- A length with too many digits is refused: it is not one, so it is written. -/
theorem headerLength_tooLong {length : Nat} (long : Text.maxDigits < (number length).length) :
    TooLong (((writtenLength length).map headerNumber).getD (.ok 1)) := by
  have several : length ≠ 1 := by
    rintro rfl
    exact absurd long (by decide)
  rw [writtenLength, if_neg several, Option.map_some, Option.getD_some]
  exact headerNumber_tooLong long

/-- The header of a block that is not readable opens no hunk. The numbers are read from left
    to right, so the first that is too long is the one that is refused. -/
theorem openHunk_tooLong {block : Block} (unreadable : ¬ block.Readable) :
    TooLong (openHunk (number block.oldStart) (writtenLength block.oldLines)
      (number block.newStart) (writtenLength block.newLines) block.heading.characters) := by
  unfold openHunk
  by_cases oldStart : (number block.oldStart).length ≤ Text.maxDigits
  · rw [headerNumber_number oldStart]
    by_cases oldLines : (number block.oldLines).length ≤ Text.maxDigits
    · rw [headerLength_writtenLength oldLines]
      by_cases newStart : (number block.newStart).length ≤ Text.maxDigits
      · rw [headerNumber_number newStart]
        have newLines : Text.maxDigits < (number block.newLines).length :=
          Nat.lt_of_not_le fun short => unreadable ⟨oldStart, oldLines, newStart, short⟩
        obtain ⟨digits, long, refused⟩ := headerLength_tooLong newLines
        exact ⟨digits, long, by simp only [refused, bind, Except.bind]⟩
      · obtain ⟨digits, long, refused⟩ := headerNumber_tooLong (Nat.lt_of_not_le newStart)
        exact ⟨digits, long, by simp only [refused, bind, Except.bind]⟩
    · obtain ⟨digits, long, refused⟩ := headerLength_tooLong (Nat.lt_of_not_le oldLines)
      exact ⟨digits, long, by simp only [refused, bind, Except.bind]⟩
  · obtain ⟨digits, long, refused⟩ := headerNumber_tooLong (Nat.lt_of_not_le oldStart)
    exact ⟨digits, long, by simp only [refused, bind, Except.bind]⟩

variable {complete : List Section} {source : Option (List Char)}

/-- A block that is not readable ends the reading at its header. -/
theorem run_block_tooLong {block : Block} (unreadable : ¬ block.Readable) {phase : Phase}
    {file : Section} (between : phase = .header file ∨ phase = .body file) :
    TooLong (Reader.run ⟨complete, source, phase⟩ (ended block.written)) := by
  obtain ⟨digits, long, refused⟩ := openHunk_tooLong unreadable
  refine ⟨digits, long, run_cons_error _ ?_⟩
  rcases between with rfl | rfl
  all_goals
    simp only [Reader.step, ofLine_header, rowStep, Phase.file?, refused, bind, Except.bind]

/-- Blocks of which one is not readable end the reading. -/
theorem run_blocks_tooLong {blocks : List Block} (unreadable : ∃ block ∈ blocks, ¬ block.Readable)
    {phase : Phase} {file : Section} (between : phase = .header file ∨ phase = .body file) :
    TooLong (Reader.run ⟨complete, source, phase⟩ (ended (blocks.flatMap Block.written))) := by
  induction blocks generalizing phase file with
  | nil => simp at unreadable
  | cons block rest inductionHypothesis =>
    rw [List.flatMap_cons]
    by_cases readable : block.Readable
    · have later : ∃ block ∈ rest, ¬ block.Readable := by
        simpa [readable] using unreadable
      rw [run_ended_append _ (run_block readable between)]
      exact inductionHypothesis later (.inr rfl)
    · obtain ⟨digits, long, refused⟩ := run_block_tooLong readable between
      exact ⟨digits, long, run_ended_append_error _ refused⟩

/-- Files with a block that is not readable end the reading. -/
theorem run_files_tooLong {files : List FileChange}
    (unreadable : ∃ file ∈ files, ∃ block ∈ file.blocks, ¬ block.Readable) {reader : Reader}
    (between : Between reader) :
    TooLong (reader.run (ended (files.flatMap FileChange.written))) := by
  induction files generalizing reader with
  | nil => simp at unreadable
  | cons file rest inductionHypothesis =>
    rw [List.flatMap_cons]
    by_cases here : ∃ block ∈ file.blocks, ¬ block.Readable
    · have refusal := run_fileHeader file between
      obtain ⟨digits, long, refused⟩ := run_blocks_tooLong here (.inl rfl)
      exact ⟨digits, long, run_ended_append_error _ (refusal.trans refused)⟩
    · have readable : ∀ block ∈ file.blocks, block.Readable := fun block member =>
        Classical.byContradiction fun refused => here ⟨block, member, refused⟩
      have later : ∃ file ∈ rest, ∃ block ∈ file.blocks, ¬ block.Readable := by
        obtain ⟨found, member, inFile⟩ := unreadable
        rcases List.mem_cons.mp member with rfl | behind
        · exact absurd inFile here
        · exact ⟨found, behind, inFile⟩
      rw [run_ended_append _ (run_file file readable between)]
      exact inductionHypothesis later (between_body _ _ _)

end LintReview.Diff.Written
