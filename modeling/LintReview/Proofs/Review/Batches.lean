import LintReview.Review

/-!
# Batches of comments

Cutting a list into batches of a positive size loses nothing and changes no order. Every batch
has something in it and is no longer than the size, and only the last may be shorter. A size
of nought gives no batches at all.
-/

namespace LintReview.Review

variable {α : Type}

/-- A list is cut into batches of a size. -/
structure Batched (size : Nat) (items : List α) (batches : List (List α)) : Prop where
  /-- The batches, one after the other, are the list. -/
  flatten_eq : batches.flatten = items
  /-- No batch is empty or too long. -/
  length_mem : ∀ batch ∈ batches, 0 < batch.length ∧ batch.length ≤ size
  /-- All batches but the last have the size. -/
  full : ∀ batch ∈ batches.dropLast, batch.length = size

/-- A list without items has no batches. -/
@[simp]
theorem batches_nil (size : Nat) : batches size ([] : List α) = [] := by
  rw [batches]
  simp

/-- There are no batches of size nought. -/
@[simp]
theorem batches_zero (items : List α) : batches 0 items = [] := by
  rw [batches]
  simp

/-- The first batch takes what it can from the front. -/
theorem batches_cons {size : Nat} {items : List α} (positive : 0 < size) (nonempty : items ≠ []) :
    batches size items = items.take size :: batches size (items.drop size) := by
  rw [batches, dif_pos ⟨positive, nonempty⟩]

/-- What fits in one batch is one batch. -/
theorem batches_single {size : Nat} {items : List α} (nonempty : items ≠ [])
    (fits : items.length ≤ size) : batches size items = [items] := by
  have positive : 0 < size := Nat.lt_of_lt_of_le (List.length_pos_iff.mpr nonempty) fits
  rw [batches_cons positive nonempty, List.take_of_length_le fits, List.drop_of_length_le fits,
    batches_nil]

/-- A full batch before others: together they are batches of the longer list. -/
theorem Batched.cons {size : Nat} {first items : List α} {batches : List (List α)}
    (positive : 0 < size) (exact : first.length = size) (rest : Batched size items batches) :
    Batched size (first ++ items) (first :: batches) where
  flatten_eq := by rw [List.flatten_cons, rest.flatten_eq]
  length_mem := by
    intro batch member
    rcases List.mem_cons.mp member with rfl | later
    · omega
    · exact rest.length_mem batch later
  full := by
    intro batch member
    cases batches with
    | nil => simp at member
    | cons next others =>
      rw [List.dropLast_cons_cons] at member
      rcases List.mem_cons.mp member with rfl | later
      · exact exact
      · exact rest.full batch later

/-- Cutting into batches of a positive size does so. -/
theorem batched_batches {size : Nat} (positive : 0 < size) (items : List α) :
    Batched size items (batches size items) := by
  induction items using batches.induct size with
  | case1 items more inductionHypothesis =>
    by_cases fits : items.length ≤ size
    · rw [batches_single more.2 fits]
      have nonempty := List.length_pos_iff.mpr more.2
      refine ⟨by simp, ?_, by simp⟩
      intro batch member
      obtain rfl := List.mem_singleton.mp member
      exact ⟨nonempty, fits⟩
    · have exact : (items.take size).length = size := by
        rw [List.length_take]
        omega
      have both := inductionHypothesis.cons positive exact
      rwa [List.take_append_drop, ← batches_cons positive more.2] at both
  | case2 items none =>
    obtain rfl : items = [] := by
      by_cases empty : items = []
      · exact empty
      · exact absurd ⟨positive, empty⟩ none
    rw [batches_nil]
    exact ⟨rfl, by simp, by simp⟩

end LintReview.Review
