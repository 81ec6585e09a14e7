import LintReview.Proofs.Diff.Patches
import LintReview.Proofs.Diff.ReadWritten

/-!
# Headers of files

The version control begins a file's part of a diff with a header: the opening line with both
names, a notice if the file is new or deleted, remarks on modes, similarity, copies, renames
and objects, and then the two names again, where `/dev/null` stands for no file. The hunks
follow.

Wherever such a header stands in a diff that is accepted, it settles the names of one
section. Its opening line closes whatever was read before, and no later line changes the
names again. What is made of the file then depends on these names, with two exceptions. A
file that has a new name is left out all the same if its only hunk leaves it empty, as if it
were deleted; and a file that has an old name counts as added if its only hunk starts from
nothing.
-/

namespace LintReview.Diff

open Text (after?)
open Written (Mode OneLine IsField Between ended)

/-! ## The text of a header -/

/-- What a header says about the file on both sides. -/
inductive Presence where
  /-- The file exists before and after the change. -/
  | kept
  | created (mode : Mode)
  | deleted (mode : Mode)

/-- The notice that a file is new or deleted. -/
def Presence.notices : Presence → List (List Char)
  | .kept => []
  | .created mode => ["new file mode ".toList ++ mode.written]
  | .deleted mode => ["deleted file mode ".toList ++ mode.written]

/-- The old name, where a new file has none. -/
def Presence.oldSide (presence : Presence) (name : List Char) : List Char :=
  match presence with
  | .created _ => noFile
  | _ => name

/-- The new name, where a deleted file has none. -/
def Presence.newSide (presence : Presence) (name : List Char) : List Char :=
  match presence with
  | .deleted _ => noFile
  | _ => name

/-- On a side where the file exists its name is not lost. -/
theorem Presence.eq_of_newSide {presence : Presence} {name other : List Char}
    (same : presence.newSide name = presence.newSide other)
    (real : presence.newSide other ≠ noFile) : name = other := by
  cases presence with
  | kept => exact same
  | created mode => exact same
  | deleted mode => exact absurd rfl real

/-- What a remark in the header of a file is about. -/
inductive RemarkKind where
  | oldMode
  | newMode
  | copyFrom
  | copyTo
  | renameFrom
  | renameTo
  | similarity
  | dissimilarity
  | objects

/-- How a remark begins. -/
def RemarkKind.lead : RemarkKind → List Char
  | .oldMode => "old mode ".toList
  | .newMode => "new mode ".toList
  | .copyFrom => "copy from ".toList
  | .copyTo => "copy to ".toList
  | .renameFrom => "rename from ".toList
  | .renameTo => "rename to ".toList
  | .similarity => "similarity index ".toList
  | .dissimilarity => "dissimilarity index ".toList
  | .objects => "index ".toList

/-- A remark in the header of a file. -/
structure Remark where
  kind : RemarkKind
  text : OneLine

/-- The line of a remark. -/
def Remark.written (remark : Remark) : List Char :=
  remark.kind.lead ++ remark.text.characters

/-- The header of a file that has hunks. The names are those of the opening line, in quotes
    or not, as they are written; a name with a blank has a tab behind it where it is given
    again. -/
structure FileHeader where
  oldName : List Char
  newName : List Char
  presence : Presence
  remarks : List Remark
  oldTab : Bool := false
  newTab : Bool := false
  oldNonempty : oldName ≠ [] := by decide
  newNonempty : newName ≠ [] := by decide
  oldField : IsField oldName := by decide
  newField : IsField newName := by decide
  oldReal : oldName ≠ noFile := by decide
  newReal : newName ≠ noFile := by decide

namespace FileHeader

/-- The name of the file before the change. -/
def source (header : FileHeader) : List Char := header.presence.oldSide header.oldName

/-- The name of the file after the change. -/
def target (header : FileHeader) : List Char := header.presence.newSide header.newName

/-- What stands behind a name where it is given again. -/
def behind (tab : Bool) : List Char := if tab then ['\t'] else []

/-- The lines that give the names again. -/
def nameLines (header : FileHeader) : List (List Char) :=
  ["--- ".toList ++ (header.source ++ behind header.oldTab),
    "+++ ".toList ++ (header.target ++ behind header.newTab)]

/-- The lines of the header. -/
def written (header : FileHeader) : List (List Char) :=
  ("diff --git ".toList ++ (header.oldName ++ ' ' :: header.newName)) ::
    (header.presence.notices ++ (header.remarks.map Remark.written ++ header.nameLines))

end FileHeader

/-! ## The rows of a header -/

/-- Two names on an opening line are cut at some space between two names. -/
theorem openingNames?_line {first second : List Char} (firstField : IsField first)
    (secondField : IsField second) (firstNonempty : first ≠ []) (secondNonempty : second ≠ []) :
    ∃ left right, openingNames? (first ++ ' ' :: second ++ ['\n']) = some (left, right) ∧
      first ++ ' ' :: second = left ++ ' ' :: right := by
  have field : IsField (first ++ ' ' :: second) :=
    firstField.append (secondField.cons (by decide) (by decide))
  have cut : (first, second) ∈ (spaceCuts (first ++ ' ' :: second)).reverse :=
    List.mem_reverse.mpr (Written.mem_spaceCuts_iff.mpr rfl)
  have found : (openingNames? (first ++ ' ' :: second ++ ['\n'])).isSome = true := by
    rw [openingNames?, Written.fieldText_line field]
    simp only [Option.orElse_eq_orElse, Option.orElse_eq_or, Option.isSome_or, Bool.or_eq_true]
    -- the last of the three searches asks only that neither name is empty
    right
    right
    rw [List.find?_isSome]
    exact ⟨(first, second), cut, by simp [firstNonempty, secondNonempty]⟩
  obtain ⟨⟨left, right⟩, names⟩ := Option.isSome_iff_exists.mp found
  refine ⟨left, right, names, ?_⟩
  rw [openingNames?, Written.fieldText_line field] at names
  have member : (left, right) ∈ (spaceCuts (first ++ ' ' :: second)).reverse := by
    simp only [Option.orElse_eq_orElse, Option.orElse_eq_or, Option.or_eq_some_iff] at names
    rcases names with sides | ⟨-, schemes | ⟨-, any⟩⟩
    · exact List.mem_of_find?_eq_some sides
    · exact List.mem_of_find?_eq_some schemes
    · exact List.mem_of_find?_eq_some any
  exact Written.mem_spaceCuts_iff.mp (List.mem_reverse.mp member)

/-- The opening line of a header is read as one, with some cut of its names. -/
theorem FileHeader.ofLine_opening (header : FileHeader) :
    ∃ left right, Row.ofLine ("diff --git ".toList ++ (header.oldName ++ ' ' :: header.newName) ++
        ['\n']) = .opening left right ∧
      header.oldName ++ ' ' :: header.newName = left ++ ' ' :: right := by
  obtain ⟨left, right, names, cut⟩ := openingNames?_line header.oldField header.newField
    header.oldNonempty header.newNonempty
  refine ⟨left, right, ?_, cut⟩
  rw [Row.ofLine, List.append_assoc, Written.after?_lead, Option.bind_some, names]

/-- A name goes up to the end of its line, or to the tab before it. -/
theorem fieldText_behind {name : List Char} (field : IsField name) (tab : Bool) :
    fieldText (name ++ FileHeader.behind tab ++ ['\n']) = name := by
  cases tab with
  | false => simpa [FileHeader.behind] using Written.fieldText_line field
  | true =>
    unfold fieldText FileHeader.behind
    rw [List.append_assoc, List.takeWhile_append_of_pos]
    · simp
    · intro character member
      have tab : character ≠ '\t' := fun same => field.1 (same ▸ member)
      have newline : character ≠ '\n' := fun same => field.2 (same ▸ member)
      simp [tab, newline]

/-- The line with the old name, with a tab behind it or not. -/
theorem ofLine_sourceLine {name : List Char} (field : IsField name) (tab : Bool) :
    Row.ofLine ("--- ".toList ++ (name ++ FileHeader.behind tab) ++ ['\n']) = .source name := by
  rw [List.append_assoc, Written.ofLine_sourceText, fieldText_behind field]

/-- The line with the new name, with a tab behind it or not. -/
theorem ofLine_targetLine {name : List Char} (field : IsField name) (tab : Bool) :
    Row.ofLine ("+++ ".toList ++ (name ++ FileHeader.behind tab) ++ ['\n']) = .target name := by
  rw [List.append_assoc, Written.ofLine_targetText, fieldText_behind field]

/-- Remarks say nothing to the reader. -/
theorem Remark.quiet (remark : Remark) : Row.ofLine (remark.written ++ ['\n']) = .other := by
  have said (first : Char) (leads : remark.kind.lead.head? = some first)
      (other : first ∉ ['d', 'n', '-', '+', '@', '\\', 'B', 'G', '\n']) :
      Row.ofLine (remark.written ++ ['\n']) = .other := by
    rw [Remark.written, List.append_assoc]
    exact Written.ofLine_other first leads other _
  obtain ⟨kind, text⟩ := remark
  cases kind with
  | newMode => rfl
  | dissimilarity => rfl
  | oldMode => exact said 'o' rfl (by decide)
  | copyFrom => exact said 'c' rfl (by decide)
  | copyTo => exact said 'c' rfl (by decide)
  | renameFrom => exact said 'r' rfl (by decide)
  | renameTo => exact said 'r' rfl (by decide)
  | similarity => exact said 's' rfl (by decide)
  | objects => exact said 'i' rfl (by decide)

/-- Only a hunk is read from a hunk header. -/
theorem hunkHeader?_eq_some {line : List Char} {row : Row} (read : hunkHeader? line = some row) :
    ∃ oldStart oldLines newStart newLines heading,
      row = .hunk oldStart oldLines newStart newLines heading := by
  unfold hunkHeader? at read
  simp only [bind, Option.bind_eq_some_iff, pure, Option.some.injEq, Prod.exists] at read
  obtain ⟨_, _, oldStart, oldLines, _, _, _, _, newStart, newLines, _, _, _, _, rfl⟩ := read
  exact ⟨_, _, _, _, _, rfl⟩

/-! ## Reading a header -/

section Reading

variable {complete : List Section} {source : Option (List Char)}

/-- The opening line of a header is read outside hunks only, since it has no mark of a body
    line. It closes the file under way and begins one with names that make up the line. -/
theorem FileHeader.step_opening (header : FileHeader) {reader next : Reader}
    (stepped : reader.step ("diff --git ".toList ++
      (header.oldName ++ ' ' :: header.newName) ++ ['\n']) = .ok next) :
    ∃ left right, header.oldName ++ ' ' :: header.newName = left ++ ' ' :: right ∧
      next = ⟨reader.files, reader.source, .header ⟨left, right, []⟩⟩ := by
  obtain ⟨left, right, opening, cut⟩ := header.ofLine_opening
  unfold Reader.step at stepped
  split at stepped
  · cases stepped
  · rw [opening] at stepped
    cases stepped
    exact ⟨left, right, cut, rfl⟩

/-- After the notice the file has the names on the sides where it exists. -/
theorem Presence.run_notices (presence : Presence) (left right : List Char) :
    Reader.run ⟨complete, source, .header ⟨left, right, []⟩⟩ (ended presence.notices) =
      .ok ⟨complete, source, .header ⟨presence.oldSide left, presence.newSide right, []⟩⟩ := by
  cases presence with
  | kept => rfl
  | created mode =>
    refine Written.run_cons [] ?_
    simp only [Reader.step, Written.ofLine_newFile, rowStep]
    rfl
  | deleted mode =>
    refine Written.run_cons [] ?_
    simp only [Reader.step, Written.ofLine_deletedFile, rowStep]
    rfl

/-- The name before the change is one field. -/
theorem FileHeader.isField_source (header : FileHeader) : IsField header.source := by
  unfold source Presence.oldSide
  split
  · exact Written.isField_noFile
  · exact header.oldField

/-- The name after the change is one field. -/
theorem FileHeader.isField_target (header : FileHeader) : IsField header.target := by
  unfold target Presence.newSide
  split
  · exact Written.isField_noFile
  · exact header.newField

/-- The line that gives the new name again. -/
def FileHeader.targetLine (header : FileHeader) : List Char :=
  "+++ ".toList ++ (header.target ++ FileHeader.behind header.newTab) ++ ['\n']

/-- The names that are given again change nothing, and the new one must be the one that the
    file has. -/
theorem FileHeader.run_nameLines (header : FileHeader) (file : Section) :
    Reader.run ⟨complete, source, .header file⟩ (ended header.nameLines) =
      if file.target = header.target then .ok ⟨complete, some header.source, .header file⟩
      else .error (.unpairedTarget header.targetLine) := by
  have old : Reader.step ⟨complete, source, .header file⟩
      ("--- ".toList ++ (header.source ++ behind header.oldTab) ++ ['\n']) =
        .ok ⟨complete, some header.source, .header file⟩ := by
    simp only [Reader.step, ofLine_sourceLine header.isField_source, rowStep]
  have row : Row.ofLine header.targetLine = .target header.target :=
    ofLine_targetLine header.isField_target header.newTab
  have new : Reader.step ⟨complete, some header.source, .header file⟩ header.targetLine =
      if file.target = header.target then .ok ⟨complete, some header.source, .header file⟩
      else .error (.unpairedTarget header.targetLine) := by
    simp only [Reader.step, row, rowStep, Phase.file?]
  refine (Written.run_cons _ old).trans ?_
  by_cases same : file.target = header.target
  · rw [if_pos same] at new ⊢
    exact Written.run_cons [] new
  · rw [if_neg same] at new ⊢
    exact Written.run_cons_error [] new

/-- Where the names that are given again can be read, the new one is that of the file. -/
theorem FileHeader.run_names (header : FileHeader) {file : Section} {last : Reader}
    (ran : Reader.run ⟨complete, source, .header file⟩ (ended header.nameLines) = .ok last) :
    file.target = header.target ∧ last = ⟨complete, some header.source, .header file⟩ := by
  rw [header.run_nameLines] at ran
  by_cases same : file.target = header.target
  · rw [if_pos same] at ran
    exact ⟨same, (Except.ok.inj ran).symm⟩
  · rw [if_neg same] at ran
    cases ran

/-- Once a header is read, its file has the new name of the header, and the old one too
    unless it is deleted.

    The opening line may be cut at another space than the one between its names. The new name
    that is given again tells if so, and such a text is not accepted. -/
theorem FileHeader.run_written (header : FileHeader) {reader last : Reader}
    (ran : reader.run (ended header.written) = .ok last) :
    ∃ known, (header.target ≠ noFile → known = header.source) ∧
      last = ⟨reader.files, some header.source, .header ⟨known, header.target, []⟩⟩ := by
  obtain ⟨begun, opened, rest⟩ := run_cons_eq_ok.mp ran
  obtain ⟨left, right, cut, rfl⟩ := header.step_opening opened
  have quiet : ∀ line ∈ header.remarks.map Remark.written,
      Row.ofLine (line ++ ['\n']) = .other := by
    intro line member
    obtain ⟨remark, -, rfl⟩ := List.mem_map.mp member
    exact remark.quiet
  have rest : Reader.run ⟨reader.files, reader.source, .header ⟨left, right, []⟩⟩
      (ended (header.presence.notices ++ (header.remarks.map Remark.written ++
        header.nameLines))) = .ok last := rest
  rw [Written.run_ended_append _ (header.presence.run_notices left right),
    Written.run_ended_append _ (Written.run_quiet quiet _)] at rest
  obtain ⟨same, rfl⟩ := header.run_names rest
  refine ⟨header.presence.oldSide left, ?_, by rw [← same]⟩
  intro real
  obtain rfl : right = header.newName := Presence.eq_of_newSide same real
  have left_eq : header.oldName = left := List.append_cancel_right cut
  rw [source, left_eq]

end Reading

end LintReview.Diff
