import LintReview.Diagnostic
import LintReview.Proofs.Text.Limits
import LintReview.Proofs.Text.Parts
import Mathlib.Data.List.Basic

/-!
# Header lines

`HeaderLine` has the parts of a line that is written like a header. Such a line announces the
diagnostic of its parts if its numbers are not too long, and cannot be read otherwise; any other
line announces nothing. So what a linter writes can be read as long as no line in the form of a
header has a long number (`ofOutput_failsExactly`).
-/

namespace LintReview.Diagnostic

/-- The parts of a line in the form of a header. Its numbers may have any length. -/
structure HeaderLine where
  file : List Char
  row : List Char
  column : List Char
  /-- What stands in front of the severity. -/
  blanks : List Char
  severity : List Char
  brief : List Char
  /-- What stands between the brackets. -/
  tag : List Char
  file_plain : ':' ∉ file
  row_digits : isNumberField row = true
  column_digits : isNumberField column = true
  blanks_blank : ∀ character ∈ blanks, Text.isBlank character = true
  severity_known : severity ∈ severities
  brief_plain : ':' ∉ brief
  brief_unbracketed : '[' ∉ brief
  tag_plain : ':' ∉ tag
  /-- The message has more than the two brackets. -/
  message_filled : brief ≠ [] ∨ tag ≠ []

namespace HeaderLine

/-- The tag with its brackets. -/
def bracketed (header : HeaderLine) : List Char := '[' :: (header.tag ++ [']'])

/-- The line. -/
def text (header : HeaderLine) : List Char :=
  Text.join [':'] [header.file, header.row, header.column, header.blanks ++ header.severity,
    header.brief ++ header.bracketed]

/-- The diagnostic that the line announces, with the values of its numbers. -/
def announced (header : HeaderLine) (row column : Nat) : Diagnostic where
  file := String.ofList header.file
  row := row
  column := column
  severity := String.ofList header.severity
  brief := String.ofList header.brief
  tag := String.ofList header.bracketed
  details := ""

/-- A number of the line has more digits than are read. -/
def IsLong (header : HeaderLine) : Prop :=
  Text.maxDigits < header.row.length ∨ Text.maxDigits < header.column.length

end HeaderLine

/-- The cut is in front of the first opening bracket. -/
theorem cut_at_bracket {brief : List Char} (rest : List Char) (plain : '[' ∉ brief) :
    (brief ++ '[' :: rest).takeWhile (· ≠ '[') = brief ∧
      (brief ++ '[' :: rest).dropWhile (· ≠ '[') = '[' :: rest := by
  have inside : ∀ character ∈ brief, decide (character ≠ '[') = true := by
    intro character member
    exact decide_eq_true fun same => plain (same ▸ member)
  constructor
  · rw [List.takeWhile_append_of_pos inside, List.takeWhile_cons]
    simp
  · rw [List.dropWhile_append_of_pos inside, List.dropWhile_cons]
    simp

/-- What is left behind the cut begins with the bracket. If it ends with a closing one, it has
    text between the two. -/
theorem exists_between {message bracketed : List Char}
    (back : message.dropWhile (· ≠ '[') = bracketed) (several : 2 ≤ bracketed.length)
    (closed : bracketed.getLast? = some ']') : ∃ tag, bracketed = '[' :: (tag ++ [']']) := by
  obtain ⟨opened, rfl⟩ := List.getLast?_eq_some_iff.mp closed
  cases opened with
  | nil => simp at several
  | cons first tag =>
    obtain rfl : first = '[' := by
      have stops := List.head?_dropWhile_not (· ≠ '[') message
      rw [back] at stops
      simpa using stops
    exact ⟨tag, rfl⟩

/-- A message is cut exactly if it ends with text in brackets, and is more than two brackets. -/
theorem cutMessage?_eq_some_iff {message brief bracketed : List Char} :
    cutMessage? message = some (brief, bracketed) ↔
      ∃ tag, '[' ∉ brief ∧ (brief ≠ [] ∨ tag ≠ []) ∧ bracketed = '[' :: (tag ++ [']']) ∧
        message = brief ++ bracketed := by
  constructor
  · intro cut
    unfold cutMessage? at cut
    dsimp only at cut
    split at cut
    · cases cut
    · next complete =>
      obtain ⟨front, back⟩ := Prod.mk.inj (Option.some.inj cut)
      simp only [Bool.or_eq_true, decide_eq_true_eq, not_or, Nat.not_lt, Decidable.not_not]
        at complete
      obtain ⟨⟨several, filled⟩, closed⟩ := complete
      rw [back] at several closed
      obtain ⟨tag, rfl⟩ := exists_between back several closed
      have whole : message = brief ++ '[' :: (tag ++ [']']) := by
        rw [← front, ← back, List.takeWhile_append_dropWhile]
      have plain : '[' ∉ brief := by
        intro member
        rw [← front] at member
        exact absurd (List.all_eq_true.mp List.all_takeWhile '[' member) (by decide)
      refine ⟨tag, plain, ?_, rfl, whole⟩
      rw [whole] at filled
      cases brief with
      | cons character rest => exact .inl (List.cons_ne_nil character rest)
      | nil =>
        refine .inr fun empty => ?_
        simp [empty] at filled
  · rintro ⟨tag, plain, filled, rfl, rfl⟩
    obtain ⟨front, back⟩ := cut_at_bracket (tag ++ [']']) plain
    have long : 3 ≤ (brief ++ '[' :: (tag ++ [']'])).length := by
      have some : 0 < brief.length ∨ 0 < tag.length :=
        filled.imp List.length_pos_iff.mpr List.length_pos_iff.mpr
      simp only [List.length_append, List.length_cons, List.length_nil]
      omega
    have ended : ('[' :: (tag ++ [']'])).getLast? = some ']' := by simp [List.getLast?_cons]
    unfold cutMessage?
    dsimp only
    rw [front, back, if_neg]
    simp only [ended, Bool.or_eq_true, decide_eq_true_eq, not_or, Nat.not_lt, ne_eq, not_true,
      not_false_eq_true, and_true]
    exact ⟨by simp, long⟩

/-- A field of digits has no colon. -/
theorem isNumberField_plain {field : List Char} (digits : isNumberField field = true) :
    ':' ∉ field := by
  intro member
  have decimal := List.all_eq_true.mp (Bool.and_eq_true_iff.mp digits).2 ':' member
  exact absurd decimal (by decide)

/-- A severity has no colon, and begins with no blank. -/
theorem severity_solid : ∀ severity ∈ severities,
    ':' ∉ severity ∧ Text.trimStart severity = severity := by decide

/-- A colon is no blank. -/
theorem colon_solid : Text.isBlank ':' = false := by decide

namespace HeaderLine

variable (header : HeaderLine)

theorem trimStart_severity :
    Text.trimStart (header.blanks ++ header.severity) = header.severity := by
  rw [Text.trimStart, List.dropWhile_append_of_pos header.blanks_blank]
  exact (severity_solid _ header.severity_known).2

theorem cutMessage?_message :
    cutMessage? (header.brief ++ header.bracketed) = some (header.brief, header.bracketed) :=
  cutMessage?_eq_some_iff.mpr
    ⟨header.tag, header.brief_unbracketed, header.message_filled, rfl, rfl⟩

/-- The line is cut into its five fields. -/
theorem split_text : Text.split ':' header.text =
    [header.file, header.row, header.column, header.blanks ++ header.severity,
      header.brief ++ header.bracketed] := by
  apply Text.split_join (List.cons_ne_nil _ _)
  simp only [List.forall_mem_cons, List.not_mem_nil, false_implies, implies_true, and_true,
    List.mem_append, not_or]
  refine ⟨header.file_plain, isNumberField_plain header.row_digits,
    isNumberField_plain header.column_digits, ⟨?_, ?_⟩, header.brief_plain, ?_⟩
  · intro member
    have blank := header.blanks_blank ':' member
    rw [colon_solid] at blank
    cases blank
  · exact (severity_solid _ header.severity_known).1
  · simp [bracketed, header.tag_plain]

theorem colon_mem : ':' ∈ header.text := by
  simp [text, Text.join]

/-- Lines that are the same have the same numbers. -/
theorem numbers_of_text_eq {header other : HeaderLine} (same : header.text = other.text) :
    header.row = other.row ∧ header.column = other.column := by
  have fields := congrArg (Text.split ':') same
  rw [split_text, split_text] at fields
  simp only [List.cons.injEq] at fields
  exact ⟨fields.2.1, fields.2.2.1⟩

/-- The line announces the diagnostic of its parts, once its numbers are read. -/
theorem ofHeader?_text : ofHeader? header.text = do
    let row ← Text.readDigits header.row
    let column ← Text.readDigits header.column
    return some (header.announced row column) := by
  have severe : Text.isOneOf severities header.severity = true :=
    Text.isOneOf_iff.mpr header.severity_known
  rw [ofHeader?, header.split_text]
  simp only [header.row_digits, header.column_digits, header.trimStart_severity, severe,
    header.cutMessage?_message, Bool.not_true, Bool.or_self, Bool.false_eq_true, if_false]
  rfl

end HeaderLine

/-- A line that is not in the form of a header announces nothing. -/
theorem exists_header {line : List Char} (announces : ofHeader? line ≠ .ok none) :
    ∃ header : HeaderLine, line = header.text := by
  unfold ofHeader? at announces
  split at announces
  · next file row column severity message fields =>
    split at announces
    · exact absurd rfl announces
    · next digits =>
      split at announces
      · exact absurd rfl announces
      · next severe =>
        cases cut : cutMessage? message with
        | none =>
          rw [cut] at announces
          exact absurd rfl announces
        | some parts =>
          obtain ⟨brief, bracketed⟩ := parts
          obtain ⟨tag, unbracketed, filled, rfl, rfl⟩ := cutMessage?_eq_some_iff.mp cut
          obtain ⟨plain, whole⟩ := (Text.split_eq_iff (List.cons_ne_nil _ _)).mp fields
          have message := plain (brief ++ '[' :: (tag ++ [']'])) (by simp)
          simp only [List.mem_append, List.mem_cons, not_or] at message
          simp only [Bool.or_eq_true, Bool.not_eq_true', not_or, Bool.not_eq_false] at digits severe
          let header : HeaderLine :=
            { file, row, column, brief, tag
              blanks := severity.takeWhile Text.isBlank
              severity := Text.trimStart severity
              file_plain := plain file (by simp)
              row_digits := digits.1
              column_digits := digits.2
              blanks_blank := List.all_eq_true.mp List.all_takeWhile
              severity_known := Text.isOneOf_iff.mp severe
              brief_plain := message.1
              brief_unbracketed := unbracketed
              tag_plain := message.2.2.1
              message_filled := filled }
          refine ⟨header, ?_⟩
          rw [whole]
          simp only [header, HeaderLine.text, HeaderLine.bracketed, Text.trimStart,
            List.takeWhile_append_dropWhile]
  · exact absurd rfl announces

/-- A line cannot be read exactly if it is in the form of a header and has a long number. -/
theorem ofHeader?_failsExactly (line : List Char) :
    FailsExactly Text.NumeralError.IsTooLong
      (∃ header : HeaderLine, line = header.text ∧ header.IsLong) (ofHeader? line) := by
  by_cases formed : ∃ header : HeaderLine, line = header.text
  · obtain ⟨header, rfl⟩ := formed
    rw [header.ofHeader?_text]
    have numbers := (Text.readDigits_failsExactly header.row).bind fun row _ =>
      (Text.readDigits_failsExactly header.column).bind_total fun column _ =>
        ⟨some (header.announced row column), rfl⟩
    refine numbers.congr ⟨fun long => ⟨header, rfl, long⟩, ?_⟩
    rintro ⟨other, same, long⟩
    obtain ⟨row, column⟩ := HeaderLine.numbers_of_text_eq same
    rw [row, column]
    exact long
  · have plain : ofHeader? line = .ok none :=
      Classical.byContradiction fun announces => formed (exists_header announces)
    rw [plain]
    refine (FailsExactly.pure none).congr ⟨False.elim, ?_⟩
    rintro ⟨header, same, -⟩
    exact formed ⟨header, same⟩

/-! ## Outputs -/

/-- Lines are grouped unless one of them cannot be read. -/
theorem group_failsExactly (lines : List (List Char)) :
    FailsExactly Text.NumeralError.IsTooLong
      (∃ line ∈ lines, ∃ header : HeaderLine, line = header.text ∧ header.IsLong)
      (group lines) := by
  induction lines with
  | nil => exact (FailsExactly.pure _).congr (by simp)
  | cons line rest inductionHypothesis =>
    rw [group]
    refine FailsExactly.congr ((ofHeader?_failsExactly line).bind fun header _ =>
      inductionHypothesis.bind_total fun parts _ => ?_) (by rw [List.exists_mem_cons_iff])
    cases header with
    | some diagnostic => exact ⟨_, rfl⟩
    | none => exact ⟨_, rfl⟩

/-- What a linter writes can be read unless a line in the form of a header has a long number. -/
theorem ofOutput_failsExactly (output : String) :
    FailsExactly Text.NumeralError.IsTooLong
      (∃ header : HeaderLine, header.text ∈ Text.lines output.toList ∧ header.IsLong)
      (ofOutput output) := by
  have grouped := (group_failsExactly (Text.lines output.toList)).bind_total fun parts _ =>
    ⟨parts.2, rfl⟩
  refine grouped.congr ⟨?_, ?_⟩
  · rintro ⟨line, member, header, rfl, long⟩
    exact ⟨header, member, long⟩
  · rintro ⟨header, member, long⟩
    exact ⟨header.text, member, header, rfl, long⟩

end LintReview.Diagnostic
