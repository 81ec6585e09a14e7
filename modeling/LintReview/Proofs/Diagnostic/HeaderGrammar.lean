import LintReview.Proofs.Diagnostic.Headers
import LintReview.Proofs.Text.Numerals

/-!
# The grammar of header lines

Which lines are headers is said here without the steps in which a line is read: by the parts that
a header is put together from (`HeaderForm.IsHeader`) and by what a diagnostic has of them
(`HeaderForm.Announces`). A line announces a diagnostic exactly if it has such parts with numbers
that are not too long, and exactly the diagnostic of its parts; with a longer number it cannot be
read; a line without such parts announces nothing (`ofHeader?_grammar`).
-/

namespace LintReview.Diagnostic

/-- The parts of a line with five fields, the fourth with what stands in front of its word. -/
structure HeaderForm where
  file : List Char
  row : List Char
  column : List Char
  blanks : List Char
  severity : List Char
  message : List Char

namespace HeaderForm

variable (form : HeaderForm)

/-- The line, with a colon behind each field but the last. -/
def line : List Char :=
  form.file ++ ':' :: (form.row ++ ':' :: (form.column ++ ':' ::
    (form.blanks ++ form.severity ++ ':' :: form.message)))

/-- The parts are those of a header. -/
structure IsHeader : Prop where
  file : ':' ∉ form.file
  row : form.row ≠ [] ∧ ∀ digit ∈ form.row, digit.isDigit = true
  column : form.column ≠ [] ∧ ∀ digit ∈ form.column, digit.isDigit = true
  blanks : ∀ character ∈ form.blanks, Text.isBlank character = true
  severity : form.severity ∈ ["warning".toList, "info".toList, "error".toList]
  message : ':' ∉ form.message
  several : 3 ≤ form.message.length
  bracketed : ∃ front, form.message = front ++ [']'] ∧ '[' ∈ front

/-- Neither number has more digits than are read. -/
def IsShort : Prop := form.row.length ≤ Text.maxDigits ∧ form.column.length ≤ Text.maxDigits

/-- The diagnostic is that of the parts: its tag begins at the first opening bracket of the
    message, and it has no details yet. -/
structure Announces (diagnostic : Diagnostic) : Prop where
  file : diagnostic.file.toList = form.file
  row : diagnostic.row = Nat.ofDigitChars 10 form.row 0
  column : diagnostic.column = Nat.ofDigitChars 10 form.column 0
  severity : diagnostic.severity.toList = form.severity
  brief : '[' ∉ diagnostic.brief.toList
  tag : diagnostic.tag.toList.head? = some '['
  message : diagnostic.brief.toList ++ diagnostic.tag.toList = form.message
  details : diagnostic.details = ""

end HeaderForm

/-! ## The parts as they are read -/

/-- A number field has digits `0` to `9` only, and at least one. -/
theorem isNumberField_iff {field : List Char} :
    isNumberField field = true ↔ field ≠ [] ∧ ∀ digit ∈ field, digit.isDigit = true := by
  have ascii : Text.isAsciiDigit = Char.isDigit := rfl
  rw [isNumberField, ascii]
  simp [List.isEmpty_eq_false_iff]

/-- A text with an opening bracket is cut at the first one. -/
theorem append_bracket_inj {brief tag otherBrief otherTag : List Char} (plain : '[' ∉ brief)
    (otherPlain : '[' ∉ otherBrief)
    (same : brief ++ '[' :: tag = otherBrief ++ '[' :: otherTag) :
    brief = otherBrief ∧ tag = otherTag := by
  obtain ⟨front, back⟩ := cut_at_bracket tag plain
  obtain ⟨otherFront, otherBack⟩ := cut_at_bracket otherTag otherPlain
  rw [same] at front back
  exact ⟨front.symm.trans otherFront, (List.cons.inj (back.symm.trans otherBack)).2⟩

namespace HeaderLine

variable (header : HeaderLine)

/-- The parts of a line that is written like a header. -/
def form : HeaderForm :=
  ⟨header.file, header.row, header.column, header.blanks, header.severity,
    header.brief ++ header.bracketed⟩

/-- The line is put together from its parts. -/
theorem line_form : header.form.line = header.text := by
  simp [HeaderForm.line, form, text, Text.join]

/-- A line that is written like a header has the parts of one. -/
theorem isHeader_form : header.form.IsHeader where
  file := header.file_plain
  row := isNumberField_iff.mp header.row_digits
  column := isNumberField_iff.mp header.column_digits
  blanks := header.blanks_blank
  severity := header.severity_known
  message := by simp [form, bracketed, header.brief_plain, header.tag_plain]
  several := by
    have filled : 0 < header.brief.length ∨ 0 < header.tag.length :=
      header.message_filled.imp List.length_pos_iff.mpr List.length_pos_iff.mpr
    simp only [form, bracketed, List.length_append, List.length_cons, List.length_nil]
    omega
  bracketed := ⟨header.brief ++ '[' :: header.tag, by simp [form, bracketed], by simp⟩

/-- A number of the line is too long exactly if one of its parts is. -/
theorem isLong_iff : header.IsLong ↔ ¬ header.form.IsShort := by
  rw [HeaderForm.IsShort, Decidable.not_and_iff_or_not, Nat.not_le, Nat.not_le]
  rfl

/-- A line with short numbers announces the diagnostic of its parts. -/
theorem ofHeader?_short (short : header.form.IsShort) :
    ofHeader? header.form.line = .ok (some (header.announced (Nat.ofDigitChars 10 header.row 0)
      (Nat.ofDigitChars 10 header.column 0))) := by
  have read {digits : List Char} (field : isNumberField digits = true)
      (short : digits.length ≤ Text.maxDigits) :
      Text.readDigits digits = .ok (Nat.ofDigitChars 10 digits 0) := by
    rw [Text.readDigits, if_neg (Nat.not_lt_of_le short),
      Text.digitsValue_ascii (isNumberField_iff.mp field).2]
  rw [line_form, ofHeader?_text, read header.row_digits short.1, read header.column_digits short.2]
  rfl

/-- Only one diagnostic is that of the parts. -/
theorem announces_iff (diagnostic : Diagnostic) :
    header.form.Announces diagnostic ↔
      diagnostic = header.announced (Nat.ofDigitChars 10 header.row 0)
        (Nat.ofDigitChars 10 header.column 0) := by
  constructor
  · intro announces
    obtain ⟨rest, opened⟩ : ∃ rest, diagnostic.tag.toList = '[' :: rest :=
      List.head?_eq_some_iff.mp announces.tag
    have whole := announces.message
    rw [opened] at whole
    obtain ⟨brief, behind⟩ :=
      append_bracket_inj announces.brief header.brief_unbracketed whole
    have tag : diagnostic.tag.toList = header.bracketed := opened.trans (congrArg _ behind)
    have same {text : String} {characters : List Char} (listed : text.toList = characters) :
        text = String.ofList characters := by rw [← listed, String.ofList_toList]
    cases diagnostic
    simp only [announced, Diagnostic.mk.injEq]
    exact ⟨same announces.file, announces.row, announces.column, same announces.severity,
      same brief, same tag, announces.details⟩
  · rintro rfl
    exact ⟨by simp [form, announced], rfl, rfl, by simp [form, announced],
      by simpa [announced] using header.brief_unbracketed, by simp [announced, bracketed],
      by simp [form, announced], rfl⟩

end HeaderLine

/-- Parts of a header make a line that is written like one. -/
theorem HeaderForm.IsHeader.exists_line {form : HeaderForm} (isHeader : form.IsHeader) :
    ∃ header : HeaderLine, header.form = form := by
  obtain ⟨front, closed, bracket⟩ := isHeader.bracketed
  obtain ⟨brief, tag, rfl, unbracketed⟩ := List.eq_append_cons_of_mem bracket
  have message : form.message = brief ++ '[' :: (tag ++ [']']) := by simp [closed]
  have plain := isHeader.message
  have several := isHeader.several
  rw [message] at plain several
  simp only [List.mem_append, List.mem_cons, not_or] at plain
  simp only [List.length_append, List.length_cons, List.length_nil] at several
  have filled : brief ≠ [] ∨ tag ≠ [] := by
    rw [← List.length_pos_iff, ← List.length_pos_iff]
    omega
  let header : HeaderLine :=
    { file := form.file
      row := form.row
      column := form.column
      blanks := form.blanks
      severity := form.severity
      brief := brief
      tag := tag
      file_plain := isHeader.file
      row_digits := isNumberField_iff.mpr isHeader.row
      column_digits := isNumberField_iff.mpr isHeader.column
      blanks_blank := isHeader.blanks
      severity_known := isHeader.severity
      brief_plain := plain.1
      brief_unbracketed := unbracketed
      tag_plain := plain.2.2.1
      message_filled := filled }
  have same : header.form = { form with message := brief ++ '[' :: (tag ++ [']']) } := rfl
  refine ⟨header, ?_⟩
  rw [same, ← message]

/-! ## Lines -/

/-- A line cannot be read exactly if it is put together from the parts of a header with a number
    that is too long. -/
theorem ofHeader?_error (line : List Char) :
    (∃ cause, ofHeader? line = .error cause) ↔
      ∃ form : HeaderForm, form.IsHeader ∧ ¬ form.IsShort ∧ form.line = line := by
  constructor
  · rintro ⟨cause, failed⟩
    have failing := ofHeader?_failsExactly line
    rw [failed] at failing
    obtain ⟨header, rfl, long⟩ := failing.of_error.1
    exact ⟨header.form, header.isHeader_form, header.isLong_iff.mp long, header.line_form⟩
  · rintro ⟨form, isHeader, long, rfl⟩
    obtain ⟨header, rfl⟩ := isHeader.exists_line
    obtain ⟨cause, -, failed⟩ := (ofHeader?_failsExactly _).fails
      ⟨header, header.line_form, header.isLong_iff.mpr long⟩
    exact ⟨cause, failed⟩

/-- A line announces a diagnostic exactly if it is put together from the parts of a header with
    short numbers, and the diagnostic is that of the parts. -/
theorem ofHeader?_some (line : List Char) (diagnostic : Diagnostic) :
    ofHeader? line = .ok (some diagnostic) ↔
      ∃ form : HeaderForm, form.IsHeader ∧ form.IsShort ∧ form.line = line ∧
        form.Announces diagnostic := by
  constructor
  · intro announced
    obtain ⟨header, rfl⟩ := exists_header (by rw [announced]; simp)
    by_cases short : header.form.IsShort
    · rw [← header.line_form, header.ofHeader?_short short] at announced
      cases announced
      exact ⟨header.form, header.isHeader_form, short, header.line_form,
        (header.announces_iff _).mpr rfl⟩
    · obtain ⟨cause, failed⟩ := (ofHeader?_error header.text).mpr
        ⟨header.form, header.isHeader_form, short, header.line_form⟩
      rw [announced] at failed
      cases failed
  · rintro ⟨form, isHeader, short, rfl, announces⟩
    obtain ⟨header, rfl⟩ := isHeader.exists_line
    rw [header.ofHeader?_short short, (header.announces_iff diagnostic).mp announces]

/-- A line announces nothing exactly if it is not put together from the parts of a header. -/
theorem ofHeader?_none (line : List Char) :
    ofHeader? line = .ok none ↔ ¬ ∃ form : HeaderForm, form.IsHeader ∧ form.line = line := by
  constructor
  · rintro nothing ⟨form, isHeader, rfl⟩
    by_cases short : form.IsShort
    · obtain ⟨header, rfl⟩ := isHeader.exists_line
      rw [header.ofHeader?_short short] at nothing
      cases nothing
    · obtain ⟨cause, failed⟩ := (ofHeader?_error form.line).mpr ⟨form, isHeader, short, rfl⟩
      rw [nothing] at failed
      cases failed
  · intro formless
    apply Classical.byContradiction
    intro announces
    obtain ⟨header, rfl⟩ := exists_header announces
    exact formless ⟨header.form, header.isHeader_form, header.line_form⟩

/-- The line is what its diagnostic has, with the digits of both numbers and the blanks. -/
theorem HeaderForm.Announces.line_eq {form : HeaderForm} {diagnostic : Diagnostic}
    (announces : form.Announces diagnostic) :
    form.line = diagnostic.file.toList ++ ':' :: (form.row ++ ':' :: (form.column ++ ':' ::
      (form.blanks ++ diagnostic.severity.toList ++ ':' ::
        (diagnostic.brief.toList ++ diagnostic.tag.toList)))) := by
  rw [announces.file, announces.severity, announces.message]
  rfl

/-- Header lines are those of the grammar. A line announces a diagnostic exactly if it is put
    together from the parts of a header with numbers that can be read, and then the diagnostic of
    these parts, from which the line can be put together again. It cannot be read exactly if a
    number of such parts is too long, and that is then the cause. In every other case it announces
    nothing. -/
theorem ofHeader?_grammar (line : List Char) :
    (∀ diagnostic, ofHeader? line = .ok (some diagnostic) ↔
      ∃ form : HeaderForm, form.IsHeader ∧ form.IsShort ∧ form.line = line ∧
        form.Announces diagnostic) ∧
    ((∃ cause, ofHeader? line = .error cause) ↔
      ∃ form : HeaderForm, form.IsHeader ∧ ¬ form.IsShort ∧ form.line = line) ∧
    (∀ cause, ofHeader? line = .error cause → cause.IsTooLong) ∧
    (ofHeader? line = .ok none ↔ ¬ ∃ form : HeaderForm, form.IsHeader ∧ form.line = line) ∧
    ∀ (form : HeaderForm) (diagnostic : Diagnostic), form.Announces diagnostic →
      form.line = diagnostic.file.toList ++ ':' :: (form.row ++ ':' :: (form.column ++ ':' ::
        (form.blanks ++ diagnostic.severity.toList ++ ':' ::
          (diagnostic.brief.toList ++ diagnostic.tag.toList)))) := by
  refine ⟨ofHeader?_some line, ofHeader?_error line, ?_, ofHeader?_none line,
    fun form diagnostic announces => announces.line_eq⟩
  intro cause failed
  have failing := ofHeader?_failsExactly line
  rw [failed] at failing
  exact failing.of_error.2

/-- The parts of a line with a tab in front of the severity and two texts in brackets. -/
def tabbedForm : HeaderForm where
  file := "src/a.h".toList
  row := "7".toList
  column := "012".toList
  blanks := ['\t']
  severity := "warning".toList
  message := " two [x] more [y]".toList

/-- The tag of the line begins at the first bracket. -/
theorem ofHeader?_grammar_tabbed :
    tabbedForm.line = "src/a.h:7:012:\twarning: two [x] more [y]".toList ∧
    ofHeader? tabbedForm.line =
      .ok (some ⟨"src/a.h", 7, 12, "warning", " two ", "[x] more [y]", ""⟩) ∧
    tabbedForm.line = "src/a.h".toList ++ ':' :: ("7".toList ++ ':' :: ("012".toList ++ ':' ::
      (['\t'] ++ "warning".toList ++ ':' :: (" two ".toList ++ "[x] more [y]".toList)))) := by
  have isHeader : tabbedForm.IsHeader :=
    { file := by decide +kernel
      row := isNumberField_iff.mp (by decide +kernel)
      column := isNumberField_iff.mp (by decide +kernel)
      blanks := List.forall_mem_singleton.mpr rfl
      severity := by decide +kernel
      message := by decide +kernel
      several := by decide +kernel
      bracketed := ⟨" two [x] more [y".toList, by decide +kernel, by decide +kernel⟩ }
  have short : tabbedForm.IsShort := ⟨by decide +kernel, by decide +kernel⟩
  have announces :
      tabbedForm.Announces ⟨"src/a.h", 7, 12, "warning", " two ", "[x] more [y]", ""⟩ := by
    constructor
    all_goals decide +kernel
  obtain ⟨some_iff, -, -, -, recovered⟩ := ofHeader?_grammar tabbedForm.line
  exact ⟨by decide +kernel, (some_iff _).mpr ⟨tabbedForm, isHeader, short, rfl, announces⟩,
    recovered tabbedForm _ announces⟩

end LintReview.Diagnostic
