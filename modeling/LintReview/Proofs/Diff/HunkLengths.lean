import LintReview.Proofs.Diff.Steps

/-!
# Lengths of hunks

The header of a hunk gives its length in the old and in the new file. The reader takes
exactly that many lines for its body: a context line counts on both sides, an added line
in the new file only, a removed line in the old file only. So in every diff that has
sections, the header of each hunk counts its body.

The reader's invariant says this of the hunks that are complete. For a hunk under way it
says that the lines read and the lines still to come add up to the lengths of the header.
Every step keeps it, and a run that ends leaves no line to come.
-/

namespace LintReview.Diff

/-- How many rows of the old file the lines take. -/
def oldRows (body : List BodyLine) : Nat := body.countP fun line => line.kind.inOld

/-- How many rows of the new file the lines take. -/
def newRows (body : List BodyLine) : Nat := body.countP fun line => line.kind.inNew

/-- How many of the lines are removed. -/
def removedLines (body : List BodyLine) : Nat := body.countP fun line => !line.kind.inNew

/-- Every line is removed, or takes a row of the new file. -/
theorem newRows_add_removedLines (body : List BodyLine) :
    newRows body + removedLines body = body.length := by
  induction body with
  | nil => rfl
  | cons line rest inductionHypothesis =>
    unfold newRows removedLines at inductionHypothesis ⊢
    cases shown : line.kind.inNew <;> simp only [List.countP_cons, List.length_cons, shown] <;>
      simp <;> omega

@[simp]
theorem oldRows_nil : oldRows [] = 0 := rfl

@[simp]
theorem newRows_nil : newRows [] = 0 := rfl

@[simp]
theorem oldRows_append (first second : List BodyLine) :
    oldRows (first ++ second) = oldRows first + oldRows second := List.countP_append

@[simp]
theorem newRows_append (first second : List BodyLine) :
    newRows (first ++ second) = newRows first + newRows second := List.countP_append

/-- The first item counts by itself. -/
theorem countP_cons_toNat {α : Type} (counts : α → Bool) (item : α) (rest : List α) :
    (item :: rest).countP counts = (counts item).toNat + rest.countP counts := by
  cases counted : counts item <;> simp [counted, Nat.add_comm]

theorem oldRows_cons (line : BodyLine) (rest : List BodyLine) :
    oldRows (line :: rest) = line.kind.inOld.toNat + oldRows rest :=
  countP_cons_toNat _ line rest

theorem newRows_cons (line : BodyLine) (rest : List BodyLine) :
    newRows (line :: rest) = line.kind.inNew.toNat + newRows rest :=
  countP_cons_toNat _ line rest

/-- The header gives the number of rows that the body takes on each side. -/
structure Hunk.Measured (hunk : Hunk) : Prop where
  old : oldRows hunk.body = hunk.oldLines
  new : newRows hunk.body = hunk.newLines

/-- All hunks of the file have the lengths that their headers give. -/
def Section.Measured (file : Section) : Prop := ∀ hunk ∈ file.hunks, hunk.Measured

/-- So many rows of each side are still to come, by the header. -/
structure Hunk.Awaits (hunk : Hunk) (oldLeft newLeft : Nat) : Prop where
  old : oldRows hunk.body + oldLeft = hunk.oldLines
  new : newRows hunk.body + newLeft = hunk.newLines

/-- A hunk that awaits nothing is as long as its header says. -/
theorem Hunk.Awaits.measured {hunk : Hunk} (awaits : hunk.Awaits 0 0) : hunk.Measured :=
  ⟨awaits.old, awaits.new⟩

/-- One more measured hunk leaves the file measured. -/
theorem Section.Measured.addHunk {file : Section} {hunk : Hunk} (earlier : file.Measured)
    (added : hunk.Measured) : Section.Measured { file with hunks := file.hunks ++ [hunk] } := by
  intro tested member
  rcases List.mem_append.mp member with before | last
  · exact earlier tested before
  · rw [List.mem_singleton.mp last]
    exact added

/-- What holds of the lengths wherever the reader stands. -/
def Phase.Measured : Phase → Prop
  | .outside => True
  | .header file => file.Measured
  | .body file => file.Measured
  | .hunk file current oldLeft newLeft => file.Measured ∧ current.Awaits oldLeft newLeft

/-- What holds of the lengths after any lines. -/
structure Reader.Measured (reader : Reader) : Prop where
  complete : ∀ file ∈ reader.complete, file.Measured
  phase : reader.phase.Measured

/-- The file under way is measured as far as its hunks are complete. -/
theorem Phase.Measured.file {phase : Phase} {file : Section} (measured : phase.Measured)
    (current : phase.file? = some file) : file.Measured := by
  cases phase with
  | outside => simp [Phase.file?] at current
  | header known =>
    obtain rfl : known = file := Option.some.inj current
    exact measured
  | body known =>
    obtain rfl : known = file := Option.some.inj current
    exact measured
  | hunk known hunk oldLeft newLeft =>
    obtain rfl : known = file := Option.some.inj current
    exact measured.1

/-- The files so far are measured, the one under way included. -/
theorem Reader.Measured.files {reader : Reader} (measured : reader.Measured) :
    ∀ file ∈ reader.files, file.Measured := by
  intro file member
  rcases List.mem_append.mp member with before | current
  · exact measured.complete file before
  · exact measured.phase.file (Option.mem_toList.mp current)

/-- In the header of a file the file is measured. -/
theorem Reader.Measured.header {reader : Reader} {file : Section} (measured : reader.Measured)
    (phase : reader.phase = .header file) : file.Measured :=
  measured.phase.file (congrArg Phase.file? phase)

/-- A hunk is complete exactly when nothing is left to come. -/
theorem Phase.Measured.afterLine {file : Section} {hunk : Hunk} {oldLeft newLeft : Nat}
    (earlier : file.Measured) (awaits : hunk.Awaits oldLeft newLeft) :
    (Phase.afterLine file hunk oldLeft newLeft).Measured := by
  unfold Phase.afterLine
  split
  · exact earlier.addHunk awaits.measured
  · exact ⟨earlier, awaits⟩

/-- A line inside a hunk is counted on each side where it takes a row, and a marker on
    neither. -/
theorem Hunk.Awaits.addLine {hunk : Hunk} {oldLeft newLeft : Nat} (line? : Option BodyLine)
    (awaits : hunk.Awaits ((line?.map fun line => line.kind.inOld.toNat).getD 0 + oldLeft)
      ((line?.map fun line => line.kind.inNew.toNat).getD 0 + newLeft)) :
    Hunk.Awaits { hunk with body := hunk.body ++ line?.toList } oldLeft newLeft := by
  cases line? with
  | none => simpa using awaits
  | some line =>
    have old := awaits.old
    have new := awaits.new
    simp only [Option.map_some, Option.getD_some] at old new
    constructor
    · simp only [Option.toList_some, oldRows_append, oldRows_cons, oldRows_nil]
      omega
    · simp only [Option.toList_some, newRows_append, newRows_cons, newRows_nil]
      omega

/-- A line of a hunk keeps the count, whether it is a body line or a marker. -/
theorem hunkStep_measured {file : Section} {hunk : Hunk} {oldLeft newLeft : Nat}
    {line : List Char} {next : Phase} (earlier : file.Measured)
    (awaits : hunk.Awaits oldLeft newLeft)
    (stepped : hunkStep file hunk oldLeft newLeft line = .ok next) : next.Measured := by
  obtain ⟨-, oldRemaining, newRemaining, rfl, rfl, rfl⟩ := hunkStep_eq_ok stepped
  exact Phase.Measured.afterLine earlier (awaits.addLine _)

/-- A hunk that was just opened awaits all its lines. -/
theorem openHunk_awaits {oldStart newStart heading : List Char}
    {oldLines newLines : Option (List Char)} {hunk : Hunk}
    (opened : openHunk oldStart oldLines newStart newLines heading = .ok hunk) :
    hunk.Awaits hunk.oldLines hunk.newLines := by
  have empty : hunk.body = [] := openHunk_body opened
  exact ⟨by simp [empty], by simp [empty]⟩

/-- A line outside hunks opens and closes files, but completes no hunk. -/
theorem Reader.Measured.effect {reader next : Reader} {row : Row} (measured : reader.Measured)
    (effect : RowEffect reader next row) : next.Measured := by
  cases effect with
  | opensHunk file hunk current opens after =>
    subst after
    obtain ⟨_, _, _, _, _, -, opened⟩ := opens
    exact ⟨measured.complete, measured.phase.file current, openHunk_awaits opened⟩
  | marksFile file source target notice current after =>
    subst after
    have marked : file.Measured := measured.header current
    exact ⟨measured.complete, marked⟩
  | keepsFiles fresh bare files moves =>
    have begun : ∀ file ∈ fresh, file.Measured := by
      intro file member hunk inside
      rw [bare file member] at inside
      cases inside
    have all : ∀ file ∈ next.files, file.Measured := by
      rw [files]
      exact List.forall_mem_append.mpr ⟨measured.files, begun⟩
    refine ⟨fun file member => all file (List.mem_append_left _ member), ?_⟩
    obtain ⟨complete, source, phase⟩ := next
    cases moves with
    | stays => exact measured.phase
    | leaves => trivial
    | header fresh => exact begun _ fresh
    | body fresh => exact begun _ fresh

/-- Every line keeps the lengths. -/
theorem Reader.Measured.step {reader next : Reader} {line : List Char}
    (measured : reader.Measured) (stepped : reader.step line = .ok next) : next.Measured := by
  rcases step_eq_ok stepped with
    ⟨file, hunk, oldLeft, newLeft, after, phase, advanced, rfl⟩ | ⟨-, effect⟩
  · have current := measured.phase
    rw [phase] at current
    exact ⟨measured.complete, hunkStep_measured current.1 current.2 advanced⟩
  · exact measured.effect effect

/-- Every run keeps the lengths. -/
theorem Reader.Measured.run {reader last : Reader} {lines : List (List Char)}
    (measured : reader.Measured) (ran : reader.run lines = .ok last) : last.Measured := by
  induction lines generalizing reader with
  | nil =>
    cases ran
    exact measured
  | cons line rest inductionHypothesis =>
    simp only [Reader.run, bind, Except.bind] at ran
    cases stepped : reader.step line with
    | error cause => simp [stepped] at ran
    | ok next =>
      simp only [stepped] at ran
      exact inductionHypothesis (measured.step stepped) ran

/-- At the end of the text every hunk is complete. -/
theorem Reader.Measured.finish {reader : Reader} {files : List Section}
    (measured : reader.Measured) (finished : reader.finish = .ok files) :
    ∀ file ∈ files, file.Measured := by
  unfold Reader.finish at finished
  split at finished
  · rename_i file hunk phase
    cases finished
    have current := measured.phase
    rw [phase] at current
    intro tested member
    rcases List.mem_append.mp member with before | last
    · exact measured.complete tested before
    · rw [List.mem_singleton.mp last]
      exact current.1.addHunk current.2.measured
  · cases finished
  · cases finished
    exact measured.files

/-- In every diff that has sections, the header of each hunk counts its body. -/
theorem sections_measured {text : List Char} {files : List Section}
    (read : sections text = .ok files) : ∀ file ∈ files, file.Measured := by
  have start : Reader.Measured ⟨[], none, .outside⟩ := ⟨by simp, trivial⟩
  simp only [sections, bind, Except.bind] at read
  cases ran : Reader.run ⟨[], none, .outside⟩ (Text.terminated text) with
  | error cause => simp [ran] at read
  | ok last =>
    simp only [ran] at read
    exact (start.run ran).finish read

end LintReview.Diff
