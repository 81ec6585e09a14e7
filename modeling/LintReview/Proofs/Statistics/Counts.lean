import LintReview.Proofs.Text.Limits
import LintReview.Statistics
import Mathlib.Data.List.Basic

/-!
# Counts in error output

Each rule has one counter for each number of its form, so every number that a rule finds is
read and assigned (`map_snd_assigned`). What a linter writes as error output can therefore be
read as long as no rule finds a long number in one of its lines (`ofErrorOutput_failsExactly`).
-/

namespace LintReview.Statistics

/-- A form that matches gives one text of digits for each of its numbers. -/
theorem length_of_matchParts? {parts : List Part} {text : List Char} {numbers : List (List Char)}
    (found : matchParts? parts text = some numbers) : numbers.length = parts.count .number := by
  induction parts generalizing text numbers with
  | nil =>
    cases found
    rfl
  | cons part rest inductionHypothesis =>
    cases part with
    | text content =>
      obtain ⟨after, -, later⟩ := Option.bind_eq_some_iff.mp found
      simpa using inductionHypothesis later
    | maybe content =>
      rw [matchParts?, Option.orElse_eq_orElse, Option.orElse_eq_or,
        Option.or_eq_some_iff] at found
      rcases found with present | ⟨-, absent⟩
      · obtain ⟨after, -, later⟩ := Option.bind_eq_some_iff.mp present
        simpa using inductionHypothesis later
      · simpa using inductionHypothesis absent
    | number =>
      rw [matchParts?] at found
      split at found
      · cases found
      · obtain ⟨others, later, rfl⟩ := Option.map_eq_some_iff.mp found
        rw [List.length_cons, inductionHypothesis later, List.count_cons_self]

/-- So does a form that is searched for. -/
theorem length_of_searchParts? {parts : List Part} {text : List Char}
    {numbers : List (List Char)} (found : searchParts? parts text = some numbers) :
    numbers.length = parts.count .number := by
  induction text with
  | nil => exact length_of_matchParts? found
  | cons character rest inductionHypothesis =>
    rw [searchParts?, Option.orElse_eq_orElse, Option.orElse_eq_or,
      Option.or_eq_some_iff] at found
    rcases found with here | ⟨-, later⟩
    · exact length_of_matchParts? here
    · exact inductionHypothesis later

/-- Each rule has as many counters as its form has numbers. -/
theorem length_counters : ∀ rule ∈ rules, rule.counters.length = rule.parts.count .number := by
  decide

/-- A rule that stands in a line gives as many numbers as it has counters. -/
theorem length_of_find? {rule : Rule} (known : rule ∈ rules) {line : List Char}
    {numbers : List (List Char)} (found : rule.find? line = some numbers) :
    numbers.length = rule.counters.length := by
  rw [length_counters rule known]
  unfold Rule.find? at found
  split at found
  · exact length_of_matchParts? found
  · exact length_of_searchParts? found

/-- What is assigned for a rule that stands in a line are its numbers. -/
theorem map_snd_assigned {rule : Rule} (known : rule ∈ rules) {line : List Char}
    {numbers : List (List Char)} (found : rule.find? line = some numbers) :
    (rule.counters.zip numbers).map Prod.snd = numbers :=
  List.map_snd_zip (Nat.le_of_eq (length_of_find? known found))

/-- A rule finds a number in the line that has more digits than are read. -/
def HasLongCount (line : List Char) : Prop :=
  ∃ rule ∈ rules, ∃ numbers, rule.find? line = some numbers ∧
    ∃ digits ∈ numbers, Text.maxDigits < digits.length

/-- Every number that a rule finds in a line is assigned, and nothing else is. -/
theorem hasLongCount_iff {line : List Char} :
    HasLongCount line ↔ ∃ entry ∈ assignments line, Text.maxDigits < entry.2.length := by
  constructor
  · rintro ⟨rule, known, numbers, found, digits, member, long⟩
    rw [← map_snd_assigned known found] at member
    obtain ⟨entry, inside, rfl⟩ := List.mem_map.mp member
    refine ⟨entry, List.mem_flatMap.mpr ⟨rule, known, ?_⟩, long⟩
    rw [found]
    exact inside
  · rintro ⟨entry, member, long⟩
    obtain ⟨rule, known, inside⟩ := List.mem_flatMap.mp member
    cases found : rule.find? line with
    | none =>
      rw [found] at inside
      simp at inside
    | some numbers =>
      rw [found] at inside
      have digits : entry.2 ∈ (rule.counters.zip numbers).map Prod.snd := List.mem_map_of_mem inside
      rw [map_snd_assigned known found] at digits
      exact ⟨rule, known, numbers, found, entry.2, digits, long⟩

/-- Numbers are assigned unless one of them is too long. -/
theorem assign_failsExactly (statistics : Statistics) (entries : List (Counter × List Char)) :
    FailsExactly Text.NumeralError.IsTooLong
      (∃ entry ∈ entries, Text.maxDigits < entry.2.length) (assign statistics entries) := by
  induction entries generalizing statistics with
  | nil => exact (FailsExactly.pure statistics).congr (by simp)
  | cons entry rest inductionHypothesis =>
    obtain ⟨counter, digits⟩ := entry
    have both := (Text.readDigits_failsExactly digits).bind fun value _ =>
      inductionHypothesis (statistics.set value counter)
    exact both.congr (by rw [List.exists_mem_cons_iff])

/-- Error output can be read unless a rule finds a long number in one of its lines. -/
theorem ofErrorOutput_failsExactly (output : String) :
    FailsExactly Text.NumeralError.IsTooLong
      (∃ line ∈ Text.lines output.toList, HasLongCount line) (ofErrorOutput output) := by
  refine (assign_failsExactly {} _).congr ?_
  simp only [hasLongCount_iff, List.mem_flatMap]
  constructor
  · rintro ⟨entry, ⟨line, written, assigned⟩, long⟩
    exact ⟨line, written, entry, assigned, long⟩
  · rintro ⟨line, written, entry, assigned, long⟩
    exact ⟨entry, ⟨line, written, assigned⟩, long⟩

end LintReview.Statistics
