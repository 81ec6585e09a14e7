import LintReview.Source.Offset

/-!
# Touched rows

The rows in which some of the given offsets lie, by increasing row. Of the offsets in one
row the first gives the column. Offsets outside of the file touch nothing.
-/

namespace LintReview.Source

/-- Locations by increasing row with one more, unless its row is there already. -/
def noteLocation (location : Location) : List Location → List Location
  | [] => [location]
  | first :: rest =>
    if location.row < first.row then location :: first :: rest
    else if location.row = first.row then first :: rest
    else first :: noteLocation location rest

/-- The first location in each row that an offset lies in. -/
def touched (lengths offsets : List Int) : List Location :=
  (offsets.filterMap (location? lengths)).foldl
    (fun known location => noteLocation location known) []

/-- The rows increase strictly. -/
def Increasing (locations : List Location) : Prop :=
  locations.Pairwise fun first second => first.row < second.row

theorem mem_noteLocation {location noted : Location} {known : List Location}
    (member : location ∈ noteLocation noted known) : location = noted ∨ location ∈ known := by
  induction known with
  | nil => exact Or.inl (by simpa [noteLocation] using member)
  | cons first rest inductionHypothesis =>
    unfold noteLocation at member
    split at member
    · rcases List.mem_cons.1 member with same | later
      · exact Or.inl same
      · exact Or.inr later
    · split at member
      · exact Or.inr member
      · rcases List.mem_cons.1 member with same | later
        · exact Or.inr (same ▸ List.mem_cons_self)
        · rcases inductionHypothesis later with same | inside
          · exact Or.inl same
          · exact Or.inr (List.mem_cons_of_mem _ inside)

/-- Noting a location keeps the order of the rows. -/
theorem Increasing.noteLocation {known : List Location} (ordered : Increasing known)
    (location : Location) : Increasing (noteLocation location known) := by
  induction known with
  | nil => exact List.pairwise_singleton _ _
  | cons first rest inductionHypothesis =>
    have ordered' := List.pairwise_cons.1 ordered
    unfold Source.noteLocation
    split
    · rename_i before
      refine List.pairwise_cons.2 ⟨?_, ordered⟩
      intro other member
      rcases List.mem_cons.1 member with same | later
      · exact same ▸ before
      · exact Nat.lt_trans before (ordered'.1 other later)
    · split
      · exact ordered
      · rename_i notBefore differs
        refine List.pairwise_cons.2 ⟨?_, inductionHypothesis ordered'.2⟩
        intro other member
        rcases mem_noteLocation member with same | inside
        · subst same; omega
        · exact ordered'.1 other inside

end LintReview.Source
