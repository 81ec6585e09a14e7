import LintReview.Diff.Document

/-!
# What one line does

The reader meets eleven sorts of lines outside hunks, and body lines and markers inside
one. Whatever the sort, a line that is read does one of few things. Outside hunks it opens
a hunk in the file under way, or marks that file as new or deleted while its header is read,
or leaves all files as they are and possibly begins further ones, which have no hunk. Inside
a hunk it counts on the sides where it takes a row. What a run keeps follows from these cases
and never from the eleven sorts again.
-/

namespace LintReview.Diff

/-- The header row opens the hunk. -/
def Row.Opens (row : Row) (hunk : Hunk) : Prop :=
  ∃ oldStart oldLines newStart newLines heading,
    row = .hunk oldStart oldLines newStart newLines heading ∧
    openHunk oldStart oldLines newStart newLines heading = .ok hunk

/-- A hunk that was just opened has no body line. -/
theorem openHunk_body {oldStart newStart heading : List Char}
    {oldLines newLines : Option (List Char)} {hunk : Hunk}
    (opened : openHunk oldStart oldLines newStart newLines heading = .ok hunk) :
    hunk.body = [] := by
  unfold openHunk at opened
  simp only [bind, Except.bind] at opened
  repeat' split at opened
  all_goals cases opened
  rfl

/-- Where the reader can stand after a line that opens no hunk, if the line begins the given
    files: where it stood, outside all files, or in one of the files begun. -/
inductive Phase.Moves (before : Phase) (fresh : List Section) : Phase → Prop where
  | stays : Moves before fresh before
  | leaves : Moves before fresh .outside
  | header {file : Section} (begun : file ∈ fresh) : Moves before fresh (.header file)
  | body {file : Section} (begun : file ∈ fresh) : Moves before fresh (.body file)

/-- No move leads into a hunk. -/
theorem Phase.Moves.of_hunk {before : Phase} {fresh : List Section} {file : Section}
    {hunk : Hunk} {oldLeft newLeft : Nat}
    (moves : before.Moves fresh (.hunk file hunk oldLeft newLeft)) :
    before = .hunk file hunk oldLeft newLeft := by
  cases moves with
  | stays => rfl

/-- A move leads into the header of a file that was begun. -/
theorem Phase.Moves.of_header {before : Phase} {fresh : List Section} {file : Section}
    (moves : before.Moves fresh (.header file)) : before = .header file ∨ file ∈ fresh := by
  cases moves with
  | stays => exact .inl rfl
  | header begun => exact .inr begun

/-- What a line outside hunks does. -/
inductive RowEffect (reader next : Reader) (row : Row) : Prop where
  /-- It opens a hunk in the file under way. -/
  | opensHunk (file : Section) (hunk : Hunk) (current : reader.phase.file? = some file)
      (opens : row.Opens hunk)
      (after : next = { reader with phase := .hunk file hunk hunk.oldLines hunk.newLines })
  /-- It says in the header of a file that one of the names stands for no file. -/
  | marksFile (file : Section) (source target : List Char)
      (notice : row = .newFile ∧ source = noFile ∧ target = file.target ∨
        row = .deletedFile ∧ source = file.source ∧ target = noFile)
      (current : reader.phase = .header file)
      (after : next = { reader with phase := .header ⟨source, target, file.hunks⟩ })
  /-- It leaves the files as they are, and possibly begins further ones. -/
  | keepsFiles (fresh : List Section) (bare : ∀ file ∈ fresh, file.hunks = [])
      (files : next.files = reader.files ++ fresh) (moves : reader.phase.Moves fresh next.phase)

/-- A line that changes nothing but the old name that is waiting. -/
theorem RowEffect.unmoved {reader next : Reader} {row : Row}
    (complete : next.complete = reader.complete) (phase : next.phase = reader.phase) :
    RowEffect reader next row := by
  refine .keepsFiles [] (by simp) ?_ ?_
  · rw [Reader.files, Reader.files, complete, phase, List.append_nil]
  · rw [phase]
    exact .stays

/-- A line that closes the file under way. -/
theorem RowEffect.closed {reader next : Reader} {row : Row}
    (complete : next.complete = reader.files) (phase : next.phase = .outside) :
    RowEffect reader next row := by
  refine .keepsFiles [] (by simp) ?_ ?_
  · simp [Reader.files, complete, phase, Phase.file?]
  · rw [phase]
    exact .leaves

/-- What a line outside hunks does, whatever its sort. -/
theorem rowStep_effect {reader next : Reader} {line : List Char} {row : Row}
    (stepped : rowStep reader line row = .ok next) : RowEffect reader next row := by
  cases row with
  | opening source target =>
    cases stepped
    refine .keepsFiles [⟨source, target, []⟩] (by simp) ?_ (.header (List.mem_singleton_self _))
    simp [Reader.files, Reader.close, Phase.file?]
  | newFile =>
    cases phase : reader.phase with
    | header file =>
      simp only [rowStep, phase, Except.ok.injEq] at stepped
      exact .marksFile file _ _ (.inl ⟨rfl, rfl, rfl⟩) phase stepped.symm
    | _ => simp [rowStep, phase] at stepped
  | deletedFile =>
    cases phase : reader.phase with
    | header file =>
      simp only [rowStep, phase, Except.ok.injEq] at stepped
      exact .marksFile file _ _ (.inr ⟨rfl, rfl, rfl⟩) phase stepped.symm
    | _ => simp [rowStep, phase] at stepped
  | source name =>
    simp only [rowStep] at stepped
    split at stepped
    · cases stepped
      exact .closed rfl rfl
    · cases stepped
      exact .unmoved rfl rfl
  | target name =>
    simp only [rowStep] at stepped
    split at stepped
    · split at stepped
      · cases stepped
        exact .unmoved rfl rfl
      · cases stepped
    · rename_i source outside _
      cases stepped
      have complete : reader.files = reader.complete := by
        rw [Reader.files, outside, Option.toList_none, List.append_nil]
      refine .keepsFiles [⟨source, name, []⟩] (by simp) ?_ (.body (List.mem_singleton_self _))
      rw [complete]
      rfl
    · cases stepped
  | hunk oldStart oldLines newStart newLines heading =>
    cases current : reader.phase.file? with
    | none => simp [rowStep, current] at stepped
    | some file =>
      cases opened : openHunk oldStart oldLines newStart newLines heading with
      | error cause => simp [rowStep, current, opened, bind, Except.bind] at stepped
      | ok hunk =>
        simp only [rowStep, current, opened, bind, Except.bind, pure, Except.pure,
          Except.ok.injEq] at stepped
        exact .opensHunk file hunk current ⟨_, _, _, _, _, rfl, opened⟩ stepped.symm
  | unterminated =>
    simp only [rowStep] at stepped
    split at stepped
    · cases stepped
    · split at stepped
      · cases stepped
      · cases stepped
        exact .unmoved rfl rfl
  | empty =>
    simp only [rowStep] at stepped
    split at stepped
    · split at stepped
      · cases stepped
        exact .closed rfl rfl
      · cases stepped
        exact .unmoved rfl rfl
    · cases stepped
      exact .unmoved rfl rfl
  | binary source target =>
    simp only [rowStep] at stepped
    split at stepped
    · cases stepped
      exact .closed rfl rfl
    · cases stepped
      refine .keepsFiles [⟨source, target, []⟩] (by simp) ?_ .leaves
      simp [Reader.files, Reader.close, Phase.file?]
  | binaryPatch =>
    simp only [rowStep] at stepped
    split at stepped
    · cases stepped
      exact .closed rfl rfl
    · cases stepped
  | other =>
    simp only [rowStep] at stepped
    split at stepped
    · cases stepped
      exact .closed rfl rfl
    · cases stepped
      exact .unmoved rfl rfl

/-- The body line that a line of a hunk is: none for a marker. -/
def bodyLineOf? (line : List Char) : Option BodyLine :=
  match bodyLine? line with
  | some (some kind, content) => some ⟨kind, content⟩
  | _ => none

/-- A line that takes a row leaves one row fewer to come. -/
theorem takeRow_eq_some {takes : Bool} {left remaining : Nat}
    (taken : takeRow takes left = some remaining) : left = takes.toNat + remaining := by
  cases takes with
  | false => simpa [takeRow] using taken
  | true =>
    cases left with
    | zero => simp [takeRow] at taken
    | succ left =>
      obtain rfl : left = remaining := Option.some.inj taken
      simp [Nat.add_comm]

/-- What a line inside a hunk does: a body line is put behind the others and takes its rows
    from those to come, a marker leaves the hunk as it is. -/
theorem hunkStep_eq_ok {file : Section} {hunk : Hunk} {oldLeft newLeft : Nat} {line : List Char}
    {next : Phase} (stepped : hunkStep file hunk oldLeft newLeft line = .ok next) :
    (bodyLine? line).isSome = true ∧ ∃ oldRemaining newRemaining,
      oldLeft = ((bodyLineOf? line).map fun taken => taken.kind.inOld.toNat).getD 0 +
        oldRemaining ∧
      newLeft = ((bodyLineOf? line).map fun taken => taken.kind.inNew.toNat).getD 0 +
        newRemaining ∧
      next = Phase.afterLine file { hunk with body := hunk.body ++ (bodyLineOf? line).toList }
        oldRemaining newRemaining := by
  unfold hunkStep at stepped
  cases read : bodyLine? line with
  | none => simp [read] at stepped
  | some found =>
    obtain ⟨sort, content⟩ := found
    refine ⟨rfl, ?_⟩
    cases sort with
    | none =>
      have marker : bodyLineOf? line = none := by simp [bodyLineOf?, read]
      have same : Phase.afterLine file hunk oldLeft newLeft = next := by
        simpa [read] using stepped
      refine ⟨oldLeft, newLeft, by simp [marker], by simp [marker], ?_⟩
      simp [marker, ← same]
    | some kind =>
      have taken : bodyLineOf? line = some ⟨kind, content⟩ := by simp [bodyLineOf?, read]
      cases oldTaken : takeRow kind.inOld oldLeft with
      | none => simp [read, oldTaken] at stepped
      | some oldRemaining =>
        cases newTaken : takeRow kind.inNew newLeft with
        | none => simp [read, oldTaken, newTaken] at stepped
        | some newRemaining =>
          have same : Phase.afterLine file { hunk with body := hunk.body ++ [⟨kind, content⟩] }
              oldRemaining newRemaining = next := by
            simpa [read, oldTaken, newTaken] using stepped
          refine ⟨oldRemaining, newRemaining, ?_, ?_, ?_⟩
          · simp [taken, takeRow_eq_some oldTaken]
          · simp [taken, takeRow_eq_some newTaken]
          · simp [taken, ← same]

/-- A line is read outside a hunk by its sort, and inside one by its mark. -/
theorem step_eq_ok {reader next : Reader} {line : List Char}
    (stepped : reader.step line = .ok next) :
    (∃ file hunk oldLeft newLeft after, reader.phase = .hunk file hunk oldLeft newLeft ∧
      hunkStep file hunk oldLeft newLeft line = .ok after ∧
      next = { reader with phase := after }) ∨
    (∀ file hunk oldLeft newLeft, reader.phase ≠ .hunk file hunk oldLeft newLeft) ∧
      RowEffect reader next (Row.ofLine line) := by
  unfold Reader.step at stepped
  cases phase : reader.phase with
  | hunk file hunk oldLeft newLeft =>
    cases advanced : hunkStep file hunk oldLeft newLeft line with
    | error cause => simp [phase, advanced, bind, Except.bind] at stepped
    | ok after =>
      simp only [phase, advanced, bind, Except.bind, pure, Except.pure, Except.ok.injEq] at stepped
      exact .inl ⟨file, hunk, oldLeft, newLeft, after, rfl, advanced, stepped.symm⟩
  | _ =>
    simp only [phase] at stepped
    refine .inr ⟨?_, rowStep_effect stepped⟩
    intro file hunk oldLeft newLeft inside
    cases inside

/-- Reading two lists of lines ends well if both do, one after the other. -/
theorem run_append_eq_ok {reader last : Reader} {first second : List (List Char)} :
    reader.run (first ++ second) = .ok last ↔
      ∃ next, reader.run first = .ok next ∧ next.run second = .ok last := by
  rw [Reader.run_append]
  cases ran : reader.run first with
  | error cause => simp [Except.bind]
  | ok next => simp [Except.bind]

/-- The first line is read first. -/
theorem run_cons_eq_ok {reader last : Reader} {line : List Char} {rest : List (List Char)} :
    reader.run (line :: rest) = .ok last ↔
      ∃ next, reader.step line = .ok next ∧ next.run rest = .ok last := by
  rw [Reader.run]
  cases stepped : reader.step line with
  | error cause => simp [bind, Except.bind]
  | ok next => simp [bind, Except.bind]

/-- Reading one more line is reading the lines before and then that line. -/
theorem run_concat_eq_ok {reader last : Reader} {lines : List (List Char)} {line : List Char} :
    reader.run (lines ++ [line]) = .ok last ↔
      ∃ next, reader.run lines = .ok next ∧ next.step line = .ok last := by
  rw [run_append_eq_ok]
  constructor
  · rintro ⟨next, ran, rest⟩
    obtain ⟨after, stepped, done⟩ := run_cons_eq_ok.mp rest
    cases done
    exact ⟨next, ran, stepped⟩
  · rintro ⟨next, ran, stepped⟩
    exact ⟨next, ran, run_cons_eq_ok.mpr ⟨last, stepped, rfl⟩⟩

/-- A file of the reader is complete, or it is the one under way. -/
theorem Reader.getElem?_files {reader : Reader} {number : Nat} {file : Section} :
    reader.files[number]? = some file ↔ reader.complete[number]? = some file ∨
      number = reader.complete.length ∧ reader.phase.file? = some file := by
  unfold Reader.files
  by_cases inside : number < reader.complete.length
  · rw [List.getElem?_append_left inside]
    constructor
    · exact .inl
    · rintro (complete | ⟨last, -⟩)
      · exact complete
      · omega
  · have absent : reader.complete[number]? = none := List.getElem?_eq_none (by omega)
    rw [List.getElem?_append_right (by omega), absent]
    cases current : reader.phase.file? with
    | none => simp
    | some known =>
      constructor
      · intro found
        have first : number = reader.complete.length := by
          obtain ⟨short, -⟩ := List.getElem?_eq_some_iff.mp found
          simp only [Option.toList_some, List.length_singleton] at short
          omega
        subst first
        simpa using found
      · rintro (impossible | ⟨rfl, same⟩)
        · cases impossible
        · simpa using same

end LintReview.Diff
