import LintReview.Proofs.Diff.Positions
import Mathlib.Algebra.Ring.Int.Defs

/-!
# The order of positions

Rows of the new file and their positions run the same way: a later row never has an
earlier position. Inside one hunk the positions differ as the rows do. From one hunk to a
later one the position can stay where it is, in one case only: the row directly after a
hunk without removed lines takes the position of the line below that hunk, and the first
row of the next hunk takes the same. Behind the last hunk no line is left, so the same row
then takes a position that the diff does not have.

Both come from one equation. Where hunks are separated, exactly one of them covers a row
that has a position, and the position is the number of lines of the hunks before it and of
the rows down to the row.
-/

namespace LintReview.Diff

/-- The numbers of a hunk that has some line: its rows in the new file are some of its
    lines. -/
structure Span.Sized (span : Span) : Prop where
  rows : 0 ≤ span.newLines
  shown : span.newLines ≤ span.lineCount
  lines : 1 ≤ span.lineCount

/-- How many lines hunks of the given numbers have together. -/
def lineSum (spans : List Span) : Int := (spans.map Span.lineCount).sum

@[simp]
theorem lineSum_nil : lineSum [] = 0 := rfl

@[simp]
theorem lineSum_cons (span : Span) (rest : List Span) :
    lineSum (span :: rest) = span.lineCount + lineSum rest := by
  simp [lineSum]

@[simp]
theorem lineSum_append (first second : List Span) :
    lineSum (first ++ second) = lineSum first + lineSum second := by
  simp [lineSum]

/-- Hunks that have lines have at least one for each. -/
theorem length_le_lineSum {spans : List Span} (sized : ∀ span ∈ spans, span.Sized) :
    (spans.length : Int) ≤ lineSum spans := by
  induction spans with
  | nil => simp
  | cons span rest inductionHypothesis =>
    obtain ⟨first, others⟩ := List.forall_mem_cons.mp sized
    have counted := inductionHypothesis others
    have lines := first.lines
    simp only [lineSum_cons, List.length_cons, Int.natCast_add, Int.cast_ofNat_Int]
    omega

/-- Hunks that have lines and no line together are none. -/
theorem eq_nil_of_lineSum {spans : List Span} (sized : ∀ span ∈ spans, span.Sized)
    (empty : lineSum spans = 0) : spans = [] := by
  have counted := length_le_lineSum sized
  apply List.eq_nil_of_length_eq_zero
  omega

/-- A hunk covers the rows from its start to the one directly after its last. -/
theorem Span.covers_iff (span : Span) (row : Int) :
    span.covers row = true ↔ span.newStart ≤ row ∧ row ≤ span.newStart + span.newLines := by
  rw [Span.covers, Bool.and_eq_true, decide_eq_true_iff, decide_eq_true_iff]

/-- A separated hunk ends before every later hunk starts, not only before the next. -/
theorem Separated.before_later {span : Span} {rest : List Span}
    (separated : Separated (span :: rest)) (sized : ∀ later ∈ rest, later.Sized) :
    ∀ later ∈ rest, span.newStart + span.newLines < later.newStart := by
  induction rest generalizing span with
  | nil => simp
  | cons second rest inductionHypothesis =>
    obtain ⟨apart, tail⟩ := List.isChain_cons_cons.mp separated
    obtain ⟨middle, others⟩ := List.forall_mem_cons.mp sized
    intro later member
    rcases List.mem_cons.mp member with rfl | inside
    · exact apart
    · have beyond := inductionHypothesis tail others later inside
      have rows := middle.rows
      omega

/-- The position of a row among separated hunks: one of them covers it, and all lines of the
    hunks before count.

    The first hunk that covers the row gives the position. No other one covers it, so any
    hunk that does is the first. -/
theorem position?_eq_some_iff {spans : List Span} (sized : ∀ span ∈ spans, span.Sized)
    (separated : Separated spans) {row position : Int} :
    position? spans row = some position ↔
      ∃ earlier span later, spans = earlier ++ span :: later ∧ span.covers row = true ∧
        position = lineSum earlier + (row - span.newStart) + 1 := by
  unfold position?
  induction spans generalizing position with
  | nil => simp [positionAfter]
  | cons first rest inductionHypothesis =>
    obtain ⟨-, others⟩ := List.forall_mem_cons.mp sized
    have inRest := @inductionHypothesis others separated.tail
    have beyond := separated.before_later others
    unfold positionAfter
    by_cases covered : first.covers row = true
    · rw [if_pos covered, Option.some.injEq]
      constructor
      · intro same
        refine ⟨[], first, rest, rfl, covered, ?_⟩
        rw [lineSum_nil]
        omega
      · rintro ⟨earlier, span, later, split, covers, rfl⟩
        cases earlier with
        | nil =>
          obtain ⟨rfl, -⟩ := List.cons.inj split
          rw [lineSum_nil]
          omega
        | cons other earlier =>
          obtain ⟨-, tail⟩ := List.cons.inj split
          have starts : first.newStart + first.newLines < span.newStart := by
            apply beyond
            simp [tail]
          have reached := ((first.covers_iff row).mp covered).2
          have begun := ((span.covers_iff row).mp covers).1
          omega
    · rw [if_neg covered, positionAfter_eq_map, Option.map_eq_some_iff]
      constructor
      · rintro ⟨inner, mapped, rfl⟩
        obtain ⟨earlier, span, later, rfl, covers, rfl⟩ := inRest.mp mapped
        refine ⟨first :: earlier, span, later, rfl, covers, ?_⟩
        rw [lineSum_cons]
        omega
      · rintro ⟨earlier, span, later, split, covers, rfl⟩
        cases earlier with
        | nil =>
          obtain ⟨rfl, -⟩ := List.cons.inj split
          exact absurd covers covered
        | cons other earlier =>
          obtain ⟨rfl, rfl⟩ := List.cons.inj split
          refine ⟨_, inRest.mpr ⟨earlier, span, later, rfl, covers, rfl⟩, ?_⟩
          rw [lineSum_cons]
          omega

/-- Two places in a list are the same, or one of them stands before the other. -/
theorem places_ordered {α : Type} {front back otherFront otherBack : List α} {item other : α}
    (same : front ++ item :: back = otherFront ++ other :: otherBack) :
    (front = otherFront ∧ item = other) ∨ (∃ between, otherFront = front ++ item :: between) ∨
      ∃ between, front = otherFront ++ other :: between := by
  rcases List.append_eq_append_iff.mp same with ⟨gap, front_eq, rest⟩ | ⟨gap, front_eq, rest⟩
  · cases gap with
    | nil => exact .inl ⟨by simp [front_eq], (List.cons.inj rest).1⟩
    | cons head between =>
      obtain ⟨rfl, -⟩ := List.cons.inj rest
      exact .inr (.inl ⟨between, front_eq⟩)
  · cases gap with
    | nil => exact .inl ⟨by simp [front_eq], (List.cons.inj rest).1.symm⟩
    | cons head between =>
      obtain ⟨rfl, -⟩ := List.cons.inj rest
      exact .inr (.inr ⟨between, front_eq⟩)

/-- The first row is directly after a hunk without removed lines, and the second one starts
    the hunk after it. -/
def MeetAt (spans : List Span) (first second : Int) : Prop :=
  ∃ before hunk following after, spans = before ++ hunk :: following :: after ∧
    first = hunk.newStart + hunk.newLines ∧ hunk.lineCount = hunk.newLines ∧
    second = following.newStart

/-- The row is directly after the last hunk, which has no removed lines. -/
def IsBehind (spans : List Span) (row : Int) : Prop :=
  ∃ before last, spans = before ++ [last] ∧ row = last.newStart + last.newLines ∧
    last.lineCount = last.newLines

section Order

variable {spans : List Span} (sized : ∀ span ∈ spans, span.Sized) (separated : Separated spans)

include sized separated

/-- The position of a row directly after a hunk. -/
theorem position?_after {before after : List Span} {hunk : Span}
    (split : spans = before ++ hunk :: after) :
    position? spans (hunk.newStart + hunk.newLines) =
      some (lineSum before + hunk.newLines + 1) := by
  have rows : 0 ≤ hunk.newLines := (sized hunk (by simp [split])).rows
  refine (position?_eq_some_iff sized separated).mpr ⟨before, hunk, after, split, ?_, by omega⟩
  rw [Span.covers_iff]
  omega

/-- The position of the first row of a hunk. -/
theorem position?_start {before after : List Span} {hunk : Span}
    (split : spans = before ++ hunk :: after) :
    position? spans hunk.newStart = some (lineSum before + 1) := by
  have rows : 0 ≤ hunk.newLines := (sized hunk (by simp [split])).rows
  refine (position?_eq_some_iff sized separated).mpr ⟨before, hunk, after, split, ?_, by omega⟩
  rw [Span.covers_iff]
  omega

/-- Where two hunks meet, two rows have one position. -/
theorem position?_of_meetAt {first second : Int} (meet : MeetAt spans first second) :
    position? spans first = position? spans second := by
  obtain ⟨before, hunk, following, after, split, rfl, onlyShown, rfl⟩ := meet
  have next : spans = (before ++ [hunk]) ++ following :: after := by simp [split]
  rw [position?_after sized separated split, position?_start sized separated next]
  simp only [lineSum_append, lineSum_cons, lineSum_nil, onlyShown, Int.add_zero]

/-- A later row has no earlier position, and the same position exactly where two hunks meet.

    A row of an earlier hunk has at most the position below that hunk, and a row of a later
    hunk at least the one where that hunk starts. Every hunk has a line, so these two are
    the same only for neighbours. -/
theorem position?_mono {first second position later : Int} (less : first < second)
    (mapped : position? spans first = some position)
    (laterMapped : position? spans second = some later) :
    position ≤ later ∧ (position = later ↔ MeetAt spans first second) := by
  have meets : MeetAt spans first second → position = later := by
    intro meet
    have same := position?_of_meetAt sized separated meet
    rw [mapped, laterMapped] at same
    exact Option.some.inj same
  obtain ⟨front, hunk, back, split, covers, rfl⟩ :=
    (position?_eq_some_iff sized separated).mp mapped
  obtain ⟨otherFront, other, otherBack, otherSplit, otherCovers, rfl⟩ :=
    (position?_eq_some_iff sized separated).mp laterMapped
  obtain ⟨begun, reached⟩ := (hunk.covers_iff first).mp covers
  obtain ⟨otherBegun, otherReached⟩ := (other.covers_iff second).mp otherCovers
  have shown : hunk.newLines ≤ hunk.lineCount := (sized hunk (by simp [split])).shown
  rcases places_ordered (split.symm.trans otherSplit) with
    ⟨rfl, rfl⟩ | ⟨between, rfl⟩ | ⟨between, rfl⟩
  · refine ⟨by omega, ?_, meets⟩
    intro same
    omega
  · have inside : ∀ span ∈ between, span.Sized := by
      intro span member
      exact sized span (by simp [otherSplit, member])
    have counted := length_le_lineSum inside
    have sum : lineSum (front ++ hunk :: between) =
        lineSum front + (hunk.lineCount + lineSum between) := by
      rw [lineSum_append, lineSum_cons]
    rw [sum] at meets ⊢
    refine ⟨by omega, ?_, meets⟩
    intro same
    have neighbours : between = [] := by
      apply eq_nil_of_lineSum inside
      omega
    subst neighbours
    rw [lineSum_nil] at same
    refine ⟨front, hunk, other, otherBack, by simp [otherSplit], ?_, ?_, ?_⟩ <;> omega
  · -- the later row would lie in an earlier hunk, and so before this one's start
    have whole : spans = otherFront ++ other :: (between ++ hunk :: back) := by simp [split]
    have tail : Separated (other :: (between ++ hunk :: back)) := by
      rw [whole] at separated
      exact (List.isChain_append.mp separated).2.1
    have starts : other.newStart + other.newLines < hunk.newStart := by
      apply tail.before_later
      · intro span member
        apply sized
        rw [whole]
        exact List.mem_append_right _ (List.mem_cons_of_mem other member)
      · simp
    omega

/-- A position is the number of a line of the hunks, or one more: the latter exactly for
    the row behind the last hunk. -/
theorem position?_bounds {row position : Int} (mapped : position? spans row = some position) :
    1 ≤ position ∧ position ≤ lineSum spans + 1 ∧
      (position = lineSum spans + 1 ↔ IsBehind spans row) := by
  have behind : IsBehind spans row → position = lineSum spans + 1 := by
    rintro ⟨before, last, split, rfl, onlyShown⟩
    rw [position?_after sized separated split] at mapped
    obtain rfl := Option.some.inj mapped
    simp only [split, lineSum_append, lineSum_cons, lineSum_nil, onlyShown, Int.add_zero]
  obtain ⟨front, hunk, back, split, covers, rfl⟩ :=
    (position?_eq_some_iff sized separated).mp mapped
  obtain ⟨begun, reached⟩ := (hunk.covers_iff row).mp covers
  have shown : hunk.newLines ≤ hunk.lineCount := (sized hunk (by simp [split])).shown
  have inFront : ∀ span ∈ front, span.Sized := fun span member =>
    sized span (by simp [split, member])
  have inBack : ∀ span ∈ back, span.Sized := fun span member =>
    sized span (by simp [split, member])
  have frontCounted := length_le_lineSum inFront
  have backCounted := length_le_lineSum inBack
  have total : lineSum spans = lineSum front + (hunk.lineCount + lineSum back) := by
    rw [split, lineSum_append, lineSum_cons]
  refine ⟨by omega, by omega, ?_, behind⟩
  intro same
  have last : back = [] := by
    apply eq_nil_of_lineSum inBack
    omega
  subst last
  rw [lineSum_nil] at total
  refine ⟨front, hunk, split, ?_, ?_⟩ <;> omega

end Order

/-- The order of positions, over all rows that separated hunks give a position. A later row
    has the same or a later position, and the same one exactly where two hunks meet. Every
    position is the number of a line, save the one of the row behind the last hunk. -/
theorem positions_ordered {spans : List Span} (sized : ∀ span ∈ spans, span.Sized)
    (separated : Separated spans) {row position : Int}
    (mapped : position? spans row = some position) :
    (∀ second later, row < second → position? spans second = some later →
      position ≤ later ∧
      (position = later ↔ ∃ before hunk following after,
        spans = before ++ hunk :: following :: after ∧
        row = hunk.newStart + hunk.newLines ∧ hunk.lineCount = hunk.newLines ∧
        second = following.newStart)) ∧
    1 ≤ position ∧ position ≤ (spans.map Span.lineCount).sum + 1 ∧
    (position = (spans.map Span.lineCount).sum + 1 ↔ ∃ before last, spans = before ++ [last] ∧
      row = last.newStart + last.newLines ∧ last.lineCount = last.newLines) := by
  constructor
  · intro second later less laterMapped
    exact position?_mono sized separated less mapped laterMapped
  · exact position?_bounds sized separated mapped

/-- Two hunks that show one line each and add one behind it. -/
def twoAdditions : List Span :=
  [⟨"@@ -1,1 +1,2 @@", 1, 1, 1, 2, 2⟩, ⟨"@@ -4,1 +5,2 @@", 4, 1, 5, 2, 2⟩]

/-- Row 3 is directly after the first of the two hunks and row 5 starts the second: both have
    position 3. Row 7 is behind the last hunk, and its position is that of a fifth line. -/
theorem positions_ordered_twoAdditions :
    (∀ span ∈ twoAdditions, span.Sized) ∧ Separated twoAdditions ∧
    position? twoAdditions 3 = some 3 ∧ position? twoAdditions 5 = some 3 ∧
    position? twoAdditions 7 = some 5 ∧
    MeetAt twoAdditions 3 5 ∧ IsBehind twoAdditions 7 := by
  have sized : ∀ span ∈ twoAdditions, span.Sized := by
    intro span member
    simp only [twoAdditions, List.mem_cons, List.not_mem_nil, or_false] at member
    rcases member with rfl | rfl <;> constructor <;> decide
  have separated : Separated twoAdditions := by
    simp [Separated, twoAdditions]
  have edge : position? twoAdditions 3 = some 3 := by decide
  have start : position? twoAdditions 5 = some 3 := by decide
  have behind : position? twoAdditions 7 = some 5 := by decide
  obtain ⟨ordered, -⟩ := positions_ordered sized separated edge
  obtain ⟨-, -, -, last⟩ := positions_ordered sized separated behind
  exact ⟨sized, separated, edge, start, behind, (ordered 5 3 (by decide) start).2.mp rfl,
    last.mp rfl⟩

end LintReview.Diff
