import LintReview.Text.Lines

/-!
# Cutting and joining

Parts that do not hold the separator, joined with it, are cut apart again. So cutting gives
exactly those parts without the separator that are joined to the whole (`split_eq_iff`).
-/

namespace LintReview.Text

variable {α : Type}

/-- The separator stands behind each part but the last. -/
theorem join_cons_cons (separator first second : List α) (others : List (List α)) :
    join separator (first :: second :: others) =
      first ++ separator ++ join separator (second :: others) := by
  rw [join]
  simp

/-- Joining is putting the separator between the parts. -/
theorem join_eq_intercalate (separator : List α) (parts : List (List α)) :
    join separator parts = separator.intercalate parts := by
  induction parts with
  | nil => rfl
  | cons first rest inductionHypothesis =>
    cases rest with
    | nil => rw [join, List.intercalate_singleton]
    | cons second others =>
      rw [join_cons_cons, List.intercalate_cons_cons, inductionHypothesis]

/-- Parts in two lists, joined, are the two joined lists with the separator between them. -/
theorem join_append (separator : List α) {front back : List (List α)}
    (one : front ≠ []) (two : back ≠ []) :
    join separator (front ++ back) = join separator front ++ separator ++ join separator back := by
  induction front with
  | nil => exact absurd rfl one
  | cons first rest inductionHypothesis =>
    cases rest with
    | nil =>
      obtain ⟨second, others, rfl⟩ := List.exists_cons_of_ne_nil two
      exact join_cons_cons separator first second others
    | cons second others =>
      have later := inductionHypothesis (List.cons_ne_nil second others)
      rw [List.cons_append] at later
      rw [List.cons_append, List.cons_append, join_cons_cons, join_cons_cons, later]
      simp only [List.append_assoc]

/-- What stands in the joined parts stands in the separator or in one of the parts. -/
theorem mem_join {separator : List α} {parts : List (List α)} {item : α}
    (member : item ∈ join separator parts) : item ∈ separator ∨ ∃ part ∈ parts, item ∈ part := by
  induction parts with
  | nil => cases member
  | cons first rest inductionHypothesis =>
    cases rest with
    | nil => exact .inr ⟨first, List.mem_cons_self, member⟩
    | cons second others =>
      rw [join_cons_cons, List.mem_append, List.mem_append] at member
      rcases member with (here | between) | later
      · exact .inr ⟨first, List.mem_cons_self, here⟩
      · exact .inl between
      · refine (inductionHypothesis later).imp_right ?_
        rintro ⟨part, inside, found⟩
        exact ⟨part, List.mem_cons_of_mem first inside, found⟩

/-- What stands in a part stands in the joined parts. -/
theorem mem_join_of_mem {separator part : List α} {parts : List (List α)} {item : α}
    (inside : part ∈ parts) (member : item ∈ part) : item ∈ join separator parts := by
  induction parts with
  | nil => cases inside
  | cons first rest inductionHypothesis =>
    cases rest with
    | nil =>
      obtain rfl := List.mem_singleton.mp inside
      exact member
    | cons second others =>
      rw [join_cons_cons, List.append_assoc]
      rcases List.mem_cons.mp inside with rfl | later
      · exact List.mem_append_left _ member
      · exact List.mem_append_right _ (List.mem_append_right _ (inductionHypothesis later))

variable [DecidableEq α] {separator : α}

/-- A separator cuts what stands in front of it from what stands behind it. -/
theorem split_append (separator : α) (front back : List α) :
    split separator (front ++ separator :: back) =
      split separator front ++ split separator back := by
  induction front with
  | nil => simp [split]
  | cons item rest inductionHypothesis =>
    rw [List.cons_append, split, split, inductionHypothesis]
    split
    · rw [List.cons_append]
    · obtain ⟨first, others, parts⟩ := List.exists_cons_of_ne_nil (split_ne_nil separator rest)
      rw [parts, List.cons_append, List.modifyHead_cons, List.modifyHead_cons, List.cons_append]

/-- Without a separator there is a single part. -/
theorem split_of_not_mem {items : List α} (plain : separator ∉ items) :
    split separator items = [items] := by
  induction items with
  | nil => rfl
  | cons item rest inductionHypothesis =>
    have other : item ≠ separator := (List.ne_of_not_mem_cons plain).symm
    rw [split, if_neg other, inductionHypothesis (List.not_mem_of_not_mem_cons plain),
      List.modifyHead_cons]

/-- No part holds the separator. -/
theorem not_mem_of_mem_split {items part : List α} (member : part ∈ split separator items) :
    separator ∉ part := by
  induction items generalizing part with
  | nil =>
    obtain rfl : part = [] := by simpa [split] using member
    exact List.not_mem_nil
  | cons item rest inductionHypothesis =>
    rw [split] at member
    split at member
    · rcases List.mem_cons.mp member with rfl | later
      · exact List.not_mem_nil
      · exact inductionHypothesis later
    · next other =>
      obtain ⟨first, others, parts⟩ := List.exists_cons_of_ne_nil (split_ne_nil separator rest)
      rw [parts, List.modifyHead_cons] at member
      rw [parts] at inductionHypothesis
      rcases List.mem_cons.mp member with rfl | later
      · exact List.not_mem_cons_of_ne_of_not_mem (Ne.symm other)
          (inductionHypothesis List.mem_cons_self)
      · exact inductionHypothesis (List.mem_cons_of_mem first later)

/-- There is one part more than there are separators. -/
theorem length_split (separator : α) (items : List α) :
    (split separator items).length = items.count separator + 1 := by
  induction items with
  | nil => rfl
  | cons item rest inductionHypothesis =>
    rw [split]
    split
    · next same => rw [List.length_cons, inductionHypothesis, same, List.count_cons_self]
    · next other => rw [List.length_modifyHead, inductionHypothesis, List.count_cons_of_ne other]

/-- Cutting gives a last part, behind any others. -/
theorem exists_last_part (separator : α) (items : List α) :
    ∃ front last, split separator items = front ++ [last] :=
  ⟨_, _, (List.dropLast_concat_getLast (split_ne_nil separator items)).symm⟩

/-- What stands in a part stands in the whole. -/
theorem mem_of_mem_split {items part : List α} (member : part ∈ split separator items) {item : α}
    (inside : item ∈ part) : item ∈ items :=
  join_split separator items ▸ mem_join_of_mem member inside

/-- Parts without the separator are cut apart again. -/
theorem split_join {parts : List (List α)} (some : parts ≠ [])
    (plain : ∀ part ∈ parts, separator ∉ part) :
    split separator (join [separator] parts) = parts := by
  induction parts with
  | nil => exact absurd rfl some
  | cons part rest inductionHypothesis =>
    obtain ⟨first, later⟩ := List.forall_mem_cons.mp plain
    cases rest with
    | nil => exact split_of_not_mem first
    | cons next others =>
      rw [join_cons_cons, List.append_assoc, List.singleton_append, split_append,
        split_of_not_mem first, inductionHypothesis (List.cons_ne_nil next others) later,
        List.singleton_append]

/-- Cutting gives the parts without the separator that are joined to the whole. -/
theorem split_eq_iff {items : List α} {parts : List (List α)} (some : parts ≠ []) :
    split separator items = parts ↔
      (∀ part ∈ parts, separator ∉ part) ∧ items = join [separator] parts := by
  constructor
  · rintro rfl
    exact ⟨fun part member => not_mem_of_mem_split member, (join_split separator items).symm⟩
  · rintro ⟨plain, rfl⟩
    exact split_join some plain

end LintReview.Text
