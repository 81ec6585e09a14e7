import LintReview.Source.Touched
import Mathlib.Data.List.Basic
import Mathlib.Data.List.Sort

/-!
# The rows that offsets touch

The locations that are kept of some offsets have a row each, by increasing number, and every row
in which one of the offsets lies is among them (`exists_touched_iff`). The location in a row is
that of the first offset in it (`exists_first_offset`), so that only the columns depend on the
order of the offsets (`rows_touched_perm`).
-/

namespace LintReview.Source

/-- Noting a location adds its row, and no other. -/
theorem exists_row_noteLocation_iff (location : Location) (known : List Location) (row : Nat) :
    (∃ noted ∈ noteLocation location known, noted.row = row) ↔
      location.row = row ∨ ∃ noted ∈ known, noted.row = row := by
  induction known with
  | nil => simp [noteLocation]
  | cons first rest inductionHypothesis =>
    rw [noteLocation]
    split
    · simp only [List.exists_mem_cons_iff]
    · split
      · next same =>
        simp only [List.exists_mem_cons_iff, same]
        rw [← or_assoc, or_self]
      · simp only [List.exists_mem_cons_iff, inductionHypothesis]
        exact or_left_comm

/-- The locations that are kept of some, noted one after the other. -/
theorem noteAll_rows (locations known : List Location) (ordered : Increasing known) :
    let noted := locations.foldl (fun known location => noteLocation location known) known
    Increasing noted ∧ ∀ row, (∃ location ∈ noted, location.row = row) ↔
      (∃ location ∈ known, location.row = row) ∨ ∃ location ∈ locations, location.row = row := by
  induction locations generalizing known with
  | nil => simpa using ordered
  | cons location rest inductionHypothesis =>
    obtain ⟨increasing, rows⟩ := inductionHypothesis (noteLocation location known)
      (ordered.noteLocation location)
    refine ⟨increasing, fun row => (rows row).trans ?_⟩
    rw [exists_row_noteLocation_iff, List.exists_mem_cons_iff, or_assoc, or_left_comm]

/-- Touched rows are in order. -/
theorem increasing_touched (lengths offsets : List Int) : Increasing (touched lengths offsets) :=
  (noteAll_rows (offsets.filterMap (location? lengths)) [] .nil).1

/-- A row is touched exactly if one of the offsets lies in it. -/
theorem exists_touched_iff {lengths offsets : List Int} {row : Nat} :
    (∃ location ∈ touched lengths offsets, location.row = row) ↔
      ∃ offset ∈ offsets, ∃ location, location? lengths offset = some location ∧
        location.row = row := by
  have rows := (noteAll_rows (offsets.filterMap (location? lengths)) [] .nil).2 row
  refine rows.trans ?_
  simp only [List.not_mem_nil, false_and, exists_false, false_or, List.mem_filterMap]
  constructor
  · rintro ⟨location, ⟨offset, member, found⟩, same⟩
    exact ⟨offset, member, location, found, same⟩
  · rintro ⟨offset, member, location, found, same⟩
    exact ⟨location, ⟨offset, member, found⟩, same⟩

/-- Of touched locations there is one in a row. -/
theorem Increasing.eq_of_row {known : List Location} (ordered : Increasing known)
    {first second : Location} (one : first ∈ known) (two : second ∈ known)
    (same : first.row = second.row) : first = second := by
  induction known with
  | nil => cases one
  | cons location rest inductionHypothesis =>
    obtain ⟨apart, later⟩ := List.pairwise_cons.mp ordered
    rcases List.mem_cons.mp one with rfl | below
    · rcases List.mem_cons.mp two with rfl | under
      · rfl
      · exact absurd same (Nat.ne_of_lt (apart second under))
    · rcases List.mem_cons.mp two with rfl | under
      · exact absurd same.symm (Nat.ne_of_lt (apart first below))
      · exact inductionHypothesis later below under

/-- Noting a location keeps all that are there. The new one is kept if its row is new. -/
theorem mem_noteLocation_iff {known : List Location} (ordered : Increasing known)
    {noted location : Location} :
    location ∈ noteLocation noted known ↔
      location ∈ known ∨ location = noted ∧ ∀ other ∈ known, other.row ≠ noted.row := by
  induction known with
  | nil => simp [noteLocation]
  | cons first rest inductionHypothesis =>
    obtain ⟨apart, later⟩ := List.pairwise_cons.mp ordered
    rw [noteLocation]
    split
    · next before =>
      have free : ∀ other ∈ first :: rest, other.row ≠ noted.row := by
        refine List.forall_mem_cons.mpr ⟨(Nat.ne_of_lt before).symm, fun other member => ?_⟩
        exact (Nat.ne_of_lt (Nat.lt_trans before (apart other member))).symm
      rw [List.mem_cons, or_comm, and_iff_left free]
    · split
      · next same =>
        refine (or_iff_left ?_).symm
        rintro ⟨-, free⟩
        exact free first List.mem_cons_self same.symm
      · next other =>
        rw [List.mem_cons, inductionHypothesis later, List.mem_cons, or_assoc, List.forall_mem_cons,
          and_iff_right (Ne.symm other)]

/-- Of locations that are noted one after the other, the first in a new row is kept. -/
theorem mem_noteAll_iff (locations : List Location) {known : List Location}
    (ordered : Increasing known) {location : Location} :
    location ∈ locations.foldl (fun known location => noteLocation location known) known ↔
      location ∈ known ∨ (∀ other ∈ known, other.row ≠ location.row) ∧
        locations.find? (·.row = location.row) = some location := by
  induction locations generalizing known with
  | nil => simp
  | cons first rest inductionHypothesis =>
    have rows := exists_row_noteLocation_iff first known location.row
    rw [List.foldl_cons, inductionHypothesis (ordered.noteLocation first),
      mem_noteLocation_iff ordered]
    by_cases same : first.row = location.row
    · -- The first fills the row, unless it was full before.
      have full : ¬ ∀ other ∈ noteLocation first known, other.row ≠ location.row := by
        obtain ⟨noted, member, row⟩ := rows.mpr (.inl same)
        exact fun free => free noted member row
      rw [List.find?_cons_of_pos (by simpa using same), Option.some.injEq,
        or_iff_left (mt And.left full), same, eq_comm, and_comm]
    · have free : (∀ other ∈ noteLocation first known, other.row ≠ location.row) ↔
          ∀ other ∈ known, other.row ≠ location.row := by
        have absent := not_congr (rows.trans (or_iff_right same))
        simpa only [not_exists, not_and] using absent
      have another : ¬ (location = first ∧ ∀ other ∈ known, other.row ≠ first.row) := by
        rintro ⟨rfl, -⟩
        exact same rfl
      rw [List.find?_cons_of_neg (by simpa using same), or_iff_left another, free]

/-- The location that is kept of a row is that of the first offset in the row. -/
theorem exists_first_offset {lengths offsets : List Int} {location : Location}
    (touches : location ∈ touched lengths offsets) :
    ∃ earlier offset later, offsets = earlier ++ offset :: later ∧
      location? lengths offset = some location ∧
      ∀ other ∈ earlier, ∀ place, location? lengths other = some place →
        place.row ≠ location.row := by
  have kept := (mem_noteAll_iff (offsets.filterMap (location? lengths)) .nil).mp touches
  simp only [List.not_mem_nil, false_or] at kept
  obtain ⟨-, before, after, parts, none⟩ := List.find?_eq_some_iff_append.mp kept.2
  obtain ⟨earlier, rest, rfl, rfl, behind⟩ := List.filterMap_eq_append_iff.mp parts
  obtain ⟨skipped, offset, later, rfl, outside, found, -⟩ := List.filterMap_eq_cons_iff.mp behind
  refine ⟨earlier ++ skipped, offset, later, (List.append_assoc ..).symm, found, ?_⟩
  intro other member place located
  rcases List.mem_append.mp member with inside | inside
  · simpa using none place (List.mem_filterMap.mpr ⟨other, inside, located⟩)
  · cases (outside other inside).symm.trans located

/-- The order of the offsets does not matter for the rows. -/
theorem rows_touched_perm (lengths : List Int) {offsets others : List Int}
    (same : offsets.Perm others) :
    (touched lengths offsets).map Location.row = (touched lengths others).map Location.row := by
  have rows (list : List Int) : ((touched lengths list).map Location.row).Pairwise (· < ·) :=
    List.pairwise_map.mpr (increasing_touched lengths list)
  refine (rows offsets).eq_of_mem_iff (rows others) fun row => ?_
  rw [List.mem_map, List.mem_map, exists_touched_iff, exists_touched_iff]
  exact exists_congr fun offset => and_congr_left' same.mem_iff

/-- Offsets outside of the lines do not matter. -/
theorem touched_filter (lengths offsets : List Int) {inside : Int → Bool}
    (outside : ∀ offset ∈ offsets, inside offset = false → location? lengths offset = none) :
    touched lengths (offsets.filter inside) = touched lengths offsets := by
  have same : (offsets.filter inside).filterMap (location? lengths) =
      offsets.filterMap (location? lengths) := by
    rw [List.filterMap_filter]
    refine List.filterMap_congr fun offset member => ?_
    cases known : inside offset with
    | true => rfl
    | false => exact (outside offset member known).symm
  rw [touched, touched, same]

end LintReview.Source
