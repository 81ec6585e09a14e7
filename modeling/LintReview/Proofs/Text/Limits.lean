import LintReview.Text.Numeral
import Mathlib.Data.List.Forall2

/-!
# Readings that fail only at long numbers

A number with more digits than are read makes the whole reading fail. `FailsExactly` says of a
reading when it fails: exactly under some condition, and then for causes of one kind. Readings
are put together from others, and so are their conditions (`FailsExactly.bind`). A reading of
several items fails at the first that fails, and only there (`mapM_ok_iff`, `mapM_error_iff`).
-/

namespace LintReview

/-- The outcome is a failure exactly if the condition holds, and then of the given kind. -/
structure FailsExactly {ε α : Type} (kind : ε → Prop) (condition : Prop) (outcome : Except ε α) :
    Prop where
  succeeds : ¬ condition → ∃ value, outcome = .ok value
  fails : condition → ∃ cause, kind cause ∧ outcome = .error cause

namespace FailsExactly

variable {ε δ α β : Type} {kind : ε → Prop} {condition later : Prop} {outcome : Except ε α}

/-- What is at hand does not fail. -/
theorem pure (value : α) : FailsExactly kind False (.ok value : Except ε α) :=
  ⟨fun _ => ⟨value, rfl⟩, False.elim⟩

/-- Conditions that amount to the same. -/
theorem congr {other : Prop} (failing : FailsExactly kind condition outcome)
    (same : condition ↔ other) : FailsExactly kind other outcome :=
  ⟨fun unmet => failing.succeeds fun met => unmet (same.mp met),
    fun met => failing.fails (same.mpr met)⟩

/-- One reading after the other fails if the first does or the second does. -/
theorem bind {next : α → Except ε β} (first : FailsExactly kind condition outcome)
    (second : ∀ value, outcome = .ok value → FailsExactly kind later (next value)) :
    FailsExactly kind (condition ∨ later) (outcome >>= next) where
  succeeds := by
    intro neither
    obtain ⟨value, rfl⟩ := first.succeeds fun met => neither (.inl met)
    exact (second value rfl).succeeds fun met => neither (.inr met)
  fails := by
    intro either
    by_cases met : condition
    · obtain ⟨cause, known, rfl⟩ := first.fails met
      exact ⟨cause, known, rfl⟩
    · obtain ⟨value, rfl⟩ := first.succeeds met
      exact (second value rfl).fails (either.resolve_left met)

/-- A reading, and then something that does not fail. -/
theorem bind_total {next : α → Except ε β} (first : FailsExactly kind condition outcome)
    (second : ∀ value, outcome = .ok value → ∃ result, next value = .ok result) :
    FailsExactly kind condition (outcome >>= next) := by
  have quiet (value : α) (known : outcome = .ok value) : FailsExactly kind False (next value) := by
    obtain ⟨result, same⟩ := second value known
    rw [same]
    exact .pure result
  exact (first.bind quiet).congr (or_iff_left id)

/-- A reading whose failures are put into another form. -/
theorem mapError {others : δ → Prop} {form : ε → δ} (failing : FailsExactly kind condition outcome)
    (kept : ∀ cause, kind cause → others (form cause)) :
    FailsExactly others condition (outcome.mapError form) where
  succeeds := by
    intro unmet
    obtain ⟨value, rfl⟩ := failing.succeeds unmet
    exact ⟨value, rfl⟩
  fails := by
    intro met
    obtain ⟨cause, known, rfl⟩ := failing.fails met
    exact ⟨form cause, kept cause known, rfl⟩

/-- A failure shows that the condition holds. -/
theorem of_error {cause : ε} (failing : FailsExactly kind condition (.error cause : Except ε α)) :
    condition ∧ kind cause := by
  have met : condition := by
    apply Classical.byContradiction
    intro unmet
    obtain ⟨value, same⟩ := failing.succeeds unmet
    cases same
  obtain ⟨other, known, same⟩ := failing.fails met
  cases same
  exact ⟨met, known⟩

end FailsExactly

/-- Readings one after the other give what each of them gives. -/
theorem mapM_ok_iff {ε α β : Type} {reads : α → Except ε β} {items : List α} {values : List β} :
    items.mapM reads = .ok values ↔
      List.Forall₂ (fun item value => reads item = .ok value) items values := by
  induction items generalizing values with
  | nil =>
    rw [List.forall₂_nil_left_iff]
    exact ⟨fun given => (Except.ok.inj given).symm, fun none => congrArg Except.ok none.symm⟩
  | cons item rest inductionHypothesis =>
    rw [List.mapM_cons, List.forall₂_cons_left_iff]
    constructor
    · intro given
      rcases first : reads item with cause | value
      · rw [first] at given
        cases given
      · rcases others : rest.mapM reads with cause | values
        · rw [first, others] at given
          cases given
        · rw [first, others] at given
          exact ⟨value, values, rfl, inductionHypothesis.mp others, (Except.ok.inj given).symm⟩
    · rintro ⟨value, others, first, later, rfl⟩
      rw [first, inductionHypothesis.mpr later]
      rfl

/-- Readings that all give something give it one after the other. -/
theorem mapM_eq_ok {ε α β : Type} {reads : α → Except ε β} {given : α → β} {items : List α}
    (each : ∀ item ∈ items, reads item = .ok (given item)) :
    items.mapM reads = .ok (items.map given) := by
  rw [mapM_ok_iff, List.forall₂_map_right_iff, List.forall₂_same]
  exact each

/-- Readings one after the other fail at the first one that fails. -/
theorem mapM_error_iff {ε α β : Type} {reads : α → Except ε β} {items : List α} {cause : ε} :
    items.mapM reads = .error cause ↔
      ∃ good bad rest, items = good ++ bad :: rest ∧
        (∀ item ∈ good, ∃ value, reads item = .ok value) ∧ reads bad = .error cause := by
  induction items with
  | nil => simp [pure, Except.pure]
  | cons item rest inductionHypothesis =>
    rw [List.mapM_cons]
    rcases first : reads item with other | value
    · constructor
      · rintro ⟨⟩
        exact ⟨[], item, rest, rfl, by simp, first⟩
      · rintro ⟨good, bad, behind, split, fine, refused⟩
        cases good with
        | nil =>
          obtain ⟨rfl, rfl⟩ := List.cons.inj split
          exact congrArg Except.error (Except.error.inj (first.symm.trans refused))
        | cons head good =>
          obtain ⟨rfl, -⟩ := List.cons.inj split
          obtain ⟨value, given⟩ := fine item List.mem_cons_self
          cases first.symm.trans given
    · have onward : (do
          let found ← (Except.ok value : Except ε β)
          let others ← rest.mapM reads
          pure (found :: others)) = .error cause ↔ rest.mapM reads = .error cause := by
        rcases rest.mapM reads with other | values
        · rfl
        · exact ⟨nofun, nofun⟩
      rw [onward, inductionHypothesis]
      constructor
      · rintro ⟨good, bad, behind, rfl, fine, refused⟩
        refine ⟨item :: good, bad, behind, rfl, ?_, refused⟩
        rw [List.forall_mem_cons]
        exact ⟨⟨value, first⟩, fine⟩
      · rintro ⟨good, bad, behind, split, fine, refused⟩
        cases good with
        | nil =>
          obtain ⟨rfl, rfl⟩ := List.cons.inj split
          cases first.symm.trans refused
        | cons head good =>
          obtain ⟨rfl, rfl⟩ := List.cons.inj split
          exact ⟨good, bad, behind, rfl, fun other member => fine other (.tail _ member), refused⟩

namespace Text

/-- The numeral has more digits than are read. -/
def NumeralError.IsTooLong (cause : NumeralError) : Prop :=
  ∃ digits, maxDigits < digits ∧ cause = .tooLong digits

/-- Digits are read unless there are too many. -/
theorem readDigits_failsExactly (digits : List Char) :
    FailsExactly NumeralError.IsTooLong (maxDigits < digits.length) (readDigits digits) where
  succeeds := by
    intro short
    rw [readDigits, if_neg short]
    exact ⟨digitsValue digits, rfl⟩
  fails := by
    intro long
    rw [readDigits, if_pos long]
    exact ⟨.tooLong digits.length, ⟨digits.length, long, rfl⟩, rfl⟩

end Text

end LintReview
