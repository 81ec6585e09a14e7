import LintReview.Diff.Position
import LintReview.Proofs.Diff.Patches
import Mathlib.Data.List.Chain

/-!
# Positions and the lines they name

The lines of a file's hunks are numbered from one, through all hunks. Each context line
and each added line shows a row of the new file; a removed line shows none. A position is
meant to be the number of the line that shows a row.

`position?` does not read the lines. It takes the first hunk that covers the row, counts
every line of the hunks before it, and goes as many lines into the hunk as rows of the new
file stand before the row. Removed lines before the row in its own hunk are therefore left
out of the count: the position is the number of the row's line less their number. The row
after a hunk's last one is covered too and has a position, although the hunk shows it on
no line.
-/

namespace LintReview.Diff

/-- A line of a hunk with the row of the new file that it shows, if it shows one. -/
structure ShownLine where
  line : BodyLine
  row : Option Int
  deriving Repr, DecidableEq

/-- The lines of a body whose first row in the new file is given. -/
def shownFrom (row : Int) : List BodyLine → List ShownLine
  | [] => []
  | line :: rest =>
    if line.kind.inNew then ⟨line, some row⟩ :: shownFrom (row + 1) rest
    else ⟨line, none⟩ :: shownFrom row rest

/-- The lines of a hunk with their rows. -/
def Hunk.shown (hunk : Hunk) : List ShownLine := shownFrom hunk.newStart hunk.body

/-- The line of the given number, counted from one through all hunks. -/
def lineAt? (hunks : List Hunk) (number : Int) : Option ShownLine :=
  if number < 1 then none else (hunks.flatMap Hunk.shown)[(number - 1).toNat]?

/-- A place in hunks: one of the hunks, and one of its lines. -/
structure LinePlace (hunks : List Hunk) where
  earlier : List Hunk
  hunk : Hunk
  later : List Hunk
  before : List BodyLine
  line : BodyLine
  after : List BodyLine
  hunks_eq : hunks = earlier ++ hunk :: later
  body_eq : hunk.body = before ++ line :: after

/-- How many lines hunks have together. -/
def lineTotal (hunks : List Hunk) : Nat := (hunks.flatMap Hunk.body).length

namespace LinePlace

variable {hunks : List Hunk}

/-- The number of the line at the place. -/
def number (place : LinePlace hunks) : Nat := lineTotal place.earlier + place.before.length + 1

/-- The row of the new file that the place stands at. -/
def row (place : LinePlace hunks) : Int := place.hunk.newStart + newRows place.before

/-- How many removed lines stand before the place inside its own hunk. -/
def removedBefore (place : LinePlace hunks) : Nat := removedLines place.before

end LinePlace

/-- The rest of a body goes on with the row after those of its beginning. -/
theorem shownFrom_append (row : Int) (first second : List BodyLine) :
    shownFrom row (first ++ second) =
      shownFrom row first ++ shownFrom (row + newRows first) second := by
  induction first generalizing row with
  | nil => simp [shownFrom]
  | cons line rest inductionHypothesis =>
    simp only [List.cons_append, shownFrom, newRows_cons]
    cases shown : line.kind.inNew with
    | false => simp [inductionHypothesis]
    | true => simp [inductionHypothesis, Int.add_assoc]

/-- Showing rows neither adds nor drops a line. -/
@[simp]
theorem length_shownFrom (row : Int) (body : List BodyLine) :
    (shownFrom row body).length = body.length := by
  induction body generalizing row with
  | nil => rfl
  | cons line rest inductionHypothesis =>
    unfold shownFrom
    split <;> simp [inductionHypothesis]

/-- The lines of hunks are those of their bodies. -/
theorem length_flatMap_shown (hunks : List Hunk) :
    (hunks.flatMap Hunk.shown).length = lineTotal hunks := by
  induction hunks with
  | nil => rfl
  | cons hunk rest inductionHypothesis =>
    unfold lineTotal at inductionHypothesis ⊢
    simp [inductionHypothesis, Hunk.shown]

@[simp]
theorem lineTotal_nil : lineTotal [] = 0 := rfl

@[simp]
theorem lineTotal_cons (hunk : Hunk) (rest : List Hunk) :
    lineTotal (hunk :: rest) = hunk.body.length + lineTotal rest := by
  simp [lineTotal]

@[simp]
theorem lineTotal_append (first second : List Hunk) :
    lineTotal (first ++ second) = lineTotal first + lineTotal second := by
  simp [lineTotal]

/-- The number of a place finds its line, with the row of the place if the line shows one. -/
theorem lineAt?_number {hunks : List Hunk} (place : LinePlace hunks) :
    lineAt? hunks place.number =
      some ⟨place.line, if place.line.kind.inNew then some place.row else none⟩ := by
  obtain ⟨earlier, hunk, later, before, line, after, rfl, body⟩ := place
  have counted : (((lineTotal earlier + before.length + 1 : Nat) : Int) - 1).toNat =
      (earlier.flatMap Hunk.shown).length + before.length := by
    rw [length_flatMap_shown]
    omega
  have positive : ¬ ((lineTotal earlier + before.length + 1 : Nat) : Int) < 1 := by omega
  simp only [lineAt?, LinePlace.number, positive, if_false, counted, List.flatMap_append,
    List.flatMap_cons]
  rw [List.getElem?_append_right (by omega), Nat.add_sub_cancel_left]
  have shown : hunk.shown = shownFrom hunk.newStart before ++
      shownFrom (hunk.newStart + newRows before) (line :: after) := by
    rw [Hunk.shown, body, shownFrom_append]
  rw [shown, List.append_assoc, List.getElem?_append_right (by simp), length_shownFrom,
    Nat.sub_self]
  unfold shownFrom LinePlace.row
  split <;> rfl

/-- Hunks that do not cover the row count with all their lines. -/
theorem positionAfter_earlier {before row : Int} {earlier : List Hunk} (later : List Span)
    (uncovered : ∀ hunk ∈ earlier, hunk.span.covers row = false) :
    positionAfter before row (earlier.map Hunk.span ++ later) =
      positionAfter (before + lineTotal earlier) row later := by
  induction earlier generalizing before with
  | nil => simp
  | cons hunk rest inductionHypothesis =>
    have first : hunk.span.covers row = false := uncovered hunk List.mem_cons_self
    have others : ∀ other ∈ rest, other.span.covers row = false := fun other member =>
      uncovered other (List.mem_cons_of_mem hunk member)
    have lines : hunk.span.lineCount = hunk.body.length := rfl
    simp only [List.map_cons, List.cons_append, positionAfter, first, Bool.false_eq_true,
      if_false, inductionHypothesis others, lines, lineTotal_cons, Int.natCast_add,
      Int.add_assoc]

/-- A hunk covers the rows from its start to the one after its last. -/
theorem Hunk.covers_iff (hunk : Hunk) (row : Int) :
    hunk.span.covers row = true ↔
      (hunk.newStart : Int) ≤ row ∧ row ≤ hunk.newStart + hunk.newLines := by
  unfold Span.covers
  rw [Bool.and_eq_true, decide_eq_true_iff, decide_eq_true_iff]
  exact Iff.rfl

/-- The position of a row through the first hunk that covers it. -/
theorem position?_through {earlier later : List Hunk} {hunk : Hunk} {row : Int}
    (uncovered : ∀ other ∈ earlier, other.span.covers row = false)
    (covered : hunk.span.covers row = true) :
    position? ((earlier ++ hunk :: later).map Hunk.span) row =
      some (lineTotal earlier + (row - hunk.newStart) + 1) := by
  have start : hunk.span.newStart = hunk.newStart := rfl
  rw [position?, List.map_append, positionAfter_earlier _ uncovered, List.map_cons, positionAfter,
    if_pos covered, start]
  congr 1
  omega

/-- A row that has a position is covered by a first hunk, and mapped through it. -/
theorem first_covering {hunks : List Hunk} {row position : Int}
    (mapped : position? (hunks.map Hunk.span) row = some position) :
    ∃ earlier hunk later, hunks = earlier ++ hunk :: later ∧
      (∀ other ∈ earlier, other.span.covers row = false) ∧ hunk.span.covers row = true ∧
      position = lineTotal earlier + (row - hunk.newStart) + 1 := by
  have some_covers : ∃ hunk ∈ hunks, hunk.span.covers row = true := by
    have isMapped : (position? (hunks.map Hunk.span) row).isSome = true := by simp [mapped]
    obtain ⟨span, member, covered⟩ := (position?_isSome_iff _ row).mp isMapped
    obtain ⟨hunk, inside, rfl⟩ := List.mem_map.mp member
    exact ⟨hunk, inside, covered⟩
  obtain ⟨earlier, hunk, later, split, covered, uncovered⟩ :
      ∃ earlier hunk later, hunks = earlier ++ hunk :: later ∧ hunk.span.covers row = true ∧
        ∀ other ∈ earlier, other.span.covers row = false := by
    obtain ⟨found, search⟩ := Option.isSome_iff_exists.mp
      (List.find?_isSome.mpr some_covers : (hunks.find? fun hunk => hunk.span.covers row).isSome)
    obtain ⟨covered, earlier, later, split, missed⟩ := List.find?_eq_some_iff_append.mp search
    refine ⟨earlier, found, later, split, covered, ?_⟩
    intro other member
    simpa using missed other member
  refine ⟨earlier, hunk, later, split, uncovered, covered, ?_⟩
  rw [split, position?_through uncovered covered] at mapped
  exact (Option.some.inj mapped).symm

/-- Between neighbouring hunks at least one row of the new file is shown by neither, beyond
    the one that the first of them covers after its last line. -/
def Separated (spans : List Span) : Prop :=
  spans.IsChain fun earlier later => earlier.newStart + earlier.newLines < later.newStart

/-- The first hunk covers no row that the second one shows. -/
def Hunk.Precedes (first second : Hunk) : Prop :=
  first.newStart + first.newLines < second.newStart

instance : Trans Hunk.Precedes Hunk.Precedes Hunk.Precedes where
  trans {first second third} firstSecond secondThird := by
    unfold Hunk.Precedes at firstSecond secondThird ⊢
    omega

/-- Hunks that are separated from their neighbours are separated from all hunks before. -/
theorem Separated.uncovered {earlier later : List Hunk} {hunk : Hunk} {row : Int}
    (separated : Separated ((earlier ++ hunk :: later).map Hunk.span))
    (within : (hunk.newStart : Int) ≤ row) :
    ∀ other ∈ earlier, other.span.covers row = false := by
  have chain : (earlier ++ hunk :: later).IsChain Hunk.Precedes := by
    refine List.IsChain.imp ?_ ((List.isChain_map Hunk.span).mp separated)
    intro first second apart
    simp only [Hunk.span] at apart
    unfold Hunk.Precedes
    omega
  intro other member
  have apart : other.Precedes hunk :=
    (List.pairwise_append.mp chain.pairwise).2.2 other member hunk List.mem_cons_self
  have beyond : ¬ other.span.covers row = true := by
    rw [Hunk.covers_iff]
    unfold Hunk.Precedes at apart
    omega
  simpa using beyond

namespace LinePlace

variable {hunks : List Hunk}

/-- Every line before a place counts, the removed ones apart. -/
theorem number_eq (place : LinePlace hunks) :
    place.number =
      lineTotal place.earlier + newRows place.before + place.removedBefore + 1 := by
  have lines : newRows place.before + place.removedBefore = place.before.length :=
    newRows_add_removedLines place.before
  unfold number
  omega

/-- A line that shows a row shows one of the rows of its hunk. -/
theorem row_within (place : LinePlace hunks) (measured : place.hunk.Measured)
    (shows : place.line.kind.inNew = true) :
    (place.hunk.newStart : Int) ≤ place.row ∧
      place.row < place.hunk.newStart + place.hunk.newLines := by
  have rows : newRows place.before + 1 ≤ place.hunk.newLines := by
    rw [← measured.new, place.body_eq, newRows_append, newRows_cons, shows, Bool.toNat_true]
    omega
  unfold row
  omega

/-- The position of a row through the hunk of its place leaves out the removed lines that
    stand before it there. -/
theorem position?_row (place : LinePlace hunks) (measured : place.hunk.Measured)
    (shows : place.line.kind.inNew = true)
    (uncovered : ∀ other ∈ place.earlier, other.span.covers place.row = false) :
    position? (hunks.map Hunk.span) place.row =
      some ((place.number : Int) - place.removedBefore) := by
  obtain ⟨above, below⟩ := place.row_within measured shows
  have covered : place.hunk.span.covers place.row = true := by
    rw [Hunk.covers_iff]
    omega
  have counted := place.number_eq
  have start : place.row = place.hunk.newStart + newRows place.before := rfl
  have split : hunks.map Hunk.span =
      (place.earlier ++ place.hunk :: place.later).map Hunk.span :=
    congrArg (List.map Hunk.span) place.hunks_eq
  rw [split, position?_through uncovered covered]
  congr 1
  omega

end LinePlace

/-- Each row that a body takes is shown by one of its lines. -/
theorem exists_line_of_lt {body : List BodyLine} {rows : Nat} (within : rows < newRows body) :
    ∃ before line after, body = before ++ line :: after ∧ line.kind.inNew = true ∧
      newRows before = rows := by
  induction body generalizing rows with
  | nil => simp at within
  | cons first rest inductionHypothesis =>
    rw [newRows_cons] at within
    cases taken : first.kind.inNew with
    | false =>
      rw [taken, Bool.toNat_false, Nat.zero_add] at within
      obtain ⟨before, line, after, rfl, shows, counted⟩ := inductionHypothesis within
      refine ⟨first :: before, line, after, rfl, shows, ?_⟩
      rw [newRows_cons, taken, counted, Bool.toNat_false, Nat.zero_add]
    | true =>
      cases rows with
      | zero => exact ⟨[], first, rest, rfl, taken, rfl⟩
      | succ rows =>
        have later : rows < newRows rest := by
          rw [taken, Bool.toNat_true] at within
          omega
        obtain ⟨before, line, after, rfl, shows, counted⟩ := inductionHypothesis later
        refine ⟨first :: before, line, after, rfl, shows, ?_⟩
        rw [newRows_cons, taken, counted, Bool.toNat_true, Nat.add_comm]

/-- A row within the length of a measured hunk stands at a place in the hunk. -/
theorem exists_place (earlier later : List Hunk) {hunk : Hunk} {row : Int}
    (measured : hunk.Measured) (above : (hunk.newStart : Int) ≤ row)
    (below : row < hunk.newStart + hunk.newLines) :
    ∃ place : LinePlace (earlier ++ hunk :: later), place.earlier = earlier ∧ place.hunk = hunk ∧
      place.line.kind.inNew = true ∧ place.row = row := by
  have within : (row - hunk.newStart).toNat < newRows hunk.body := by
    rw [measured.new]
    omega
  obtain ⟨before, line, after, body, shows, counted⟩ := exists_line_of_lt within
  refine ⟨⟨earlier, hunk, later, before, line, after, rfl, body⟩, rfl, rfl, shows, ?_⟩
  simp only [LinePlace.row, counted]
  omega

/-- The position of every row that a diff shows, where its hunks are separated: the number
    of the row's line, less the removed lines before it in its own hunk. It is the line's
    number exactly if no removed line stands before it there. Removed lines of earlier hunks
    are counted.

    No earlier hunk covers the row, since hunks are separated. Its own hunk does, since the
    header counts the body. -/
theorem position_of_shown_row {text : String} {change : Change}
    (accepted : Change.ofDiff text = .ok change) {path : String} {patch : Patch}
    (kept : change.find? path = some patch) (separated : Separated patch.spans) :
    ∃ files file, sections text.toList = .ok files ∧ sectionOf? path files = some file ∧
      file.patch = .ok patch ∧
      ∀ place : LinePlace file.hunks, place.line.kind.inNew = true →
        lineAt? file.hunks place.number = some ⟨place.line, some place.row⟩ ∧
        position? patch.spans place.row = some ((place.number : Int) - place.removedBefore) ∧
        (position? patch.spans place.row = some (place.number : Int) ↔
          place.removedBefore = 0) := by
  obtain ⟨files, read, origin⟩ := find?_ofDiff accepted
  obtain ⟨file, found, given⟩ := origin path patch kept
  have spans : patch.spans = file.hunks.map Hunk.span := (Section.patch_eq_ok given).2
  have lengths : file.Measured := sections_measured read file (sectionOf?_eq_some found).1
  refine ⟨files, file, read, found, given, ?_⟩
  intro place shows
  have measured : place.hunk.Measured := by
    apply lengths
    simp [place.hunks_eq]
  have above : (place.hunk.newStart : Int) ≤ place.row := (place.row_within measured shows).1
  have apart : Separated ((place.earlier ++ place.hunk :: place.later).map Hunk.span) := by
    rw [← place.hunks_eq, ← spans]
    exact separated
  have uncovered : ∀ other ∈ place.earlier, other.span.covers place.row = false :=
    apart.uncovered above
  have mapped := place.position?_row measured shows uncovered
  rw [spans]
  refine ⟨?_, mapped, ?_⟩
  · rw [lineAt?_number, if_pos shows]
  · rw [mapped, Option.some.injEq]
    omega

/-- A diff of one file in two hunks; the second one removes a line before it adds one. -/
def twoHunks : String :=
  "diff --git a/a.cpp b/a.cpp\n--- a/a.cpp\n+++ b/a.cpp\n" ++
    "@@ -1,2 +1,3 @@\n a\n+b\n c\n@@ -10,2 +11,2 @@\n-x\n+y\n z\n"

/-- The change that the two hunks make. -/
def twoHunkPatch : Patch :=
  ⟨"a.cpp", [⟨"@@ -1,2 +1,3 @@", 1, 2, 1, 3, 3⟩, ⟨"@@ -10,2 +11,2 @@", 10, 2, 11, 2, 3⟩], .modified⟩

/-- The two hunks are separated, so the rows that they show have the positions that the law
    says. -/
theorem position_of_shown_row_twoHunks :
    Change.ofDiff twoHunks = .ok [("a.cpp", twoHunkPatch)] ∧ Separated twoHunkPatch.spans ∧
    ∃ files file, sections twoHunks.toList = .ok files ∧ sectionOf? "a.cpp" files = some file ∧
      file.patch = .ok twoHunkPatch ∧
      ∀ place : LinePlace file.hunks, place.line.kind.inNew = true →
        lineAt? file.hunks place.number = some ⟨place.line, some place.row⟩ ∧
        position? twoHunkPatch.spans place.row =
          some ((place.number : Int) - place.removedBefore) ∧
        (position? twoHunkPatch.spans place.row = some (place.number : Int) ↔
          place.removedBefore = 0) := by
  have accepted : Change.ofDiff twoHunks = .ok [("a.cpp", twoHunkPatch)] := by rfl
  have separated : Separated twoHunkPatch.spans := by
    simp [Separated, twoHunkPatch]
  exact ⟨accepted, separated, position_of_shown_row accepted rfl separated⟩

end LintReview.Diff
