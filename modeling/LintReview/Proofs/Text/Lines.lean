import LintReview.Text.Lines

/-!
# Lines of texts put together

Where one text ends with a line break, the lines of the two together are those of the one
and then those of the other (`lines_append`). There is one exception, a carriage return
before a line feed, which are a single break (`lines_append_shared`). So lines without breaks,
each with a newline behind it, are cut apart again (`lines_ended`).
-/

namespace LintReview.Text

/-- A text without a line break. -/
def IsLine (text : List Char) : Prop := ∀ character ∈ text, isLineBreak character = false

instance (text : List Char) : Decidable (IsLine text) :=
  List.decidableBAll (fun character => isLineBreak character = false) text

/-- A text that ends where a line does: it is empty, or its last character is a line break. -/
def EndsLine (text : List Char) : Prop :=
  ∀ last, text.getLast? = some last → isLineBreak last = true

/-- The first text ends with a carriage return and the second begins with a line feed, so
    that a single break stands across them. -/
def SharesBreak (first second : List Char) : Prop :=
  first.getLast? = some '\r' ∧ second.head? = some '\n'

/-- What is left of a text after its first character ends where the text does. -/
theorem EndsLine.tail {character : Char} {rest : List Char} (ends : EndsLine (character :: rest)) :
    EndsLine rest := by
  intro last found
  apply ends
  rw [List.getLast?_cons, found]
  rfl

/-- A break is shared with what follows whatever stands in front. -/
theorem SharesBreak.cons {first second : List Char} (character : Char)
    (shared : SharesBreak first second) : SharesBreak (character :: first) second := by
  refine ⟨?_, shared.2⟩
  rw [List.getLast?_cons, shared.1]
  rfl

/-- A break of its own ends an empty line. -/
theorem lines_break {character : Char} {rest : List Char} (ends : isLineBreak character = true)
    (alone : ¬ SharesBreak [character] rest) : lines (character :: rest) = [] :: lines rest := by
  rw [lines]
  · simp [ends]
  · rintro remaining rfl rfl
    exact alone ⟨rfl, rfl⟩

/-- Any other character belongs to the first line of what follows. -/
theorem lines_character {character : Char} {rest : List Char}
    (inside : isLineBreak character = false) :
    lines (character :: rest) = (character :: (lines rest).headD []) :: (lines rest).tail := by
  rw [lines]
  · cases lines rest with
    | nil => simp [inside]
    | cons first others => simp [inside]
  · rintro remaining rfl rfl
    cases inside

/-- Only the empty text has no lines. -/
theorem lines_eq_nil_iff {text : List Char} : lines text = [] ↔ text = [] := by
  fun_cases lines text <;> simp

/-- Behind a line break the lines of a second text begin. -/
theorem lines_append {first second : List Char} (ends : EndsLine first)
    (apart : ¬ SharesBreak first second) :
    lines (first ++ second) = lines first ++ lines second := by
  fun_induction lines first with
  | case1 => rfl
  | case2 rest inductionHypothesis =>
    have later : ¬ SharesBreak rest second := fun shared => apart ((shared.cons _).cons _)
    rw [List.cons_append, List.cons_append, lines, inductionHypothesis ends.tail.tail later,
      List.cons_append]
  | case3 character rest other breaks inductionHypothesis =>
    have later : ¬ SharesBreak rest second := fun shared => apart (shared.cons _)
    have alone : ¬ SharesBreak [character] (rest ++ second) := by
      rintro ⟨returned, fed⟩
      obtain rfl : character = '\r' := by simpa using returned
      cases rest with
      | nil => exact apart ⟨rfl, fed⟩
      | cons next remaining =>
        obtain rfl : next = '\n' := by simpa using fed
        exact other remaining rfl rfl
    rw [List.cons_append, lines_break breaks alone, inductionHypothesis ends.tail later,
      List.cons_append]
  | case4 character rest other inside unended inductionHypothesis =>
    -- a text of one character that is no break does not end a line
    obtain rfl : rest = [] := lines_eq_nil_iff.mp unended
    exact absurd (ends character rfl) inside
  | case5 character rest other inside line others found inductionHypothesis =>
    have later : ¬ SharesBreak rest second := fun shared => apart (shared.cons _)
    have kept : isLineBreak character = false := by simpa using inside
    rw [List.cons_append, lines_character kept, inductionHypothesis ends.tail later, found]
    rfl

/-- A carriage return and the line feed behind it, each taken for a break of its own, would have
    an empty line between them. That line is missing where the two are put together. -/
theorem lines_append_shared {first rest : List Char} (returned : first.getLast? = some '\r') :
    lines (first ++ '\n' :: rest) = lines first ++ lines rest := by
  fun_induction lines first with
  | case1 => cases returned
  | case2 remaining inductionHypothesis =>
    have later : remaining.getLast? = some '\r' := by
      cases remaining with
      | nil => cases returned
      | cons next others => simpa [List.getLast?_cons_cons] using returned
    rw [List.cons_append, List.cons_append, lines, inductionHypothesis later, List.cons_append]
  | case3 character remaining other breaks inductionHypothesis =>
    cases remaining with
    | nil =>
      obtain rfl : character = '\r' := by simpa using returned
      rfl
    | cons next others =>
      have later : (next :: others).getLast? = some '\r' := by
        simpa [List.getLast?_cons_cons] using returned
      have alone : ¬ SharesBreak [character] (next :: others ++ '\n' :: rest) := by
        rintro ⟨single, fed⟩
        obtain rfl : character = '\r' := by simpa using single
        obtain rfl : next = '\n' := by simpa using fed
        exact other others rfl rfl
      rw [List.cons_append, lines_break breaks alone, inductionHypothesis later, List.cons_append]
  | case4 character remaining other inside unended inductionHypothesis =>
    obtain rfl : remaining = [] := lines_eq_nil_iff.mp unended
    obtain rfl : character = '\r' := by simpa using returned
    exact absurd rfl inside
  | case5 character remaining other inside line others found inductionHypothesis =>
    have kept : isLineBreak character = false := by simpa using inside
    have later : remaining.getLast? = some '\r' := by
      cases remaining with
      | nil => cases found
      | cons next behind => simpa [List.getLast?_cons_cons] using returned
    rw [List.cons_append, lines_character kept, inductionHypothesis later, found]
    rfl

/-- A line and its newline are one line. -/
theorem lines_line {line : List Char} (unbroken : IsLine line) :
    lines (line ++ ['\n']) = [line] := by
  induction line with
  | nil => rfl
  | cons character rest inductionHypothesis =>
    obtain ⟨inside, later⟩ := List.forall_mem_cons.mp unbroken
    rw [List.cons_append, lines_character inside, inductionHypothesis later]
    rfl

/-- A line with its newline ends where a line does. -/
theorem endsLine_line (line : List Char) : EndsLine (line ++ ['\n']) := by
  intro last found
  obtain rfl : '\n' = last := by simpa using found
  rfl

/-- Lines that were each ended by a newline are cut apart again. -/
theorem lines_ended {parts : List (List Char)} (unbroken : ∀ part ∈ parts, IsLine part) :
    lines (parts.flatMap fun part => part ++ ['\n']) = parts := by
  induction parts with
  | nil => rfl
  | cons part rest inductionHypothesis =>
    obtain ⟨line, others⟩ := List.forall_mem_cons.mp unbroken
    have apart : ¬ SharesBreak (part ++ ['\n']) (rest.flatMap fun part => part ++ ['\n']) := by
      rintro ⟨returned, -⟩
      simp at returned
    rw [List.flatMap_cons, lines_append (endsLine_line part) apart, lines_line line,
      inductionHypothesis others, List.singleton_append]

/-- A text without carriage returns has no other newlines to unify. -/
theorem unifyNewlines_of_not_mem {text : List Char} (plain : '\r' ∉ text) :
    unifyNewlines text = text := by
  induction text with
  | nil => rfl
  | cons character rest inductionHypothesis =>
    have other : character ≠ '\r' := (List.ne_of_not_mem_cons plain).symm
    rw [unifyNewlines, if_neg other, inductionHypothesis (List.not_mem_of_not_mem_cons plain)]
    rintro remaining rfl
    exact fun _ => other rfl

end LintReview.Text
