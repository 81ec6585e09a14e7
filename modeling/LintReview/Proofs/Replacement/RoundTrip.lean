import LintReview.Proofs.Markup.WrittenContent
import LintReview.Proofs.Text.Limits
import LintReview.Proofs.Text.Numerals
import LintReview.Replacement

/-!
# Reports of changes as formatters write them

A formatter writes the changes one to a line, each as an element with an offset and a length as
its attributes and with the new text inside. What it says about the whole list stands in the
outermost start tag. Reading such a report gives the changes back as they were, in their order
(`ofReport_report`).
-/

namespace LintReview.Replacement

open Markup

/-- What a formatter says about all its changes. -/
inductive Extent where
  /-- The whole file is formatted. -/
  | complete
  /-- Formatting stopped at a line that is not understood. -/
  | incomplete (line : Nat)

/-- The attributes of the outermost element. -/
def Extent.attributes (extent : Extent) : List Assignment :=
  ⟨⟨some "xml".toList, "space".toList⟩, "preserve".toList⟩ ::
    match extent with
    | .complete => [⟨⟨none, "incomplete_format".toList⟩, "false".toList⟩]
    | .incomplete line =>
      [⟨⟨none, "incomplete_format".toList⟩, "true".toList⟩,
        ⟨⟨none, "line".toList⟩, (toString line).toList⟩]

/-- The range of a change as the attributes of its element. -/
def attributes (change : Replacement) : List Assignment :=
  [⟨⟨none, "offset".toList⟩, (toString change.offset).toList⟩,
    ⟨⟨none, "length".toList⟩, (toString change.length).toList⟩]

/-- The line with a change. -/
def line (change : Replacement) : List Char :=
  elementText itemName.base change.attributes (spelledText change.text.toList) ++ ['\n']

/-- The outermost element of a report with some changes. -/
def listText (heading : List Assignment) (changes : List Replacement) : List Char :=
  elementText listName.base heading ('\n' :: changes.flatMap line)

/-- The report of some changes, with attributes of the outermost element. -/
def report (heading : List Assignment) (changes : List Replacement) : String :=
  String.ofList ("<?xml version='1.0'?>\n".toList ++ (listText heading changes ++ ['\n']))

/-- A change that can be reported: its numbers are not too long to be read, and a document may
    hold each character of its text. -/
structure IsReportable (change : Replacement) : Prop where
  offset : (Nat.toDigits 10 change.offset.natAbs).length ≤ Text.maxDigits
  length : (Nat.toDigits 10 change.length.natAbs).length ≤ Text.maxDigits
  text : ∀ character ∈ change.text.toList, isCharacter character = true

instance (change : Replacement) : Decidable change.IsReportable :=
  decidable_of_iff
    ((Nat.toDigits 10 change.offset.natAbs).length ≤ Text.maxDigits ∧
      (Nat.toDigits 10 change.length.natAbs).length ≤ Text.maxDigits ∧
      change.text.toList.all isCharacter = true)
    ⟨fun ⟨offset, length, text⟩ => ⟨offset, length, List.all_eq_true.mp text⟩, fun reportable =>
      ⟨reportable.offset, reportable.length, List.all_eq_true.mpr reportable.text⟩⟩

/-! ## Values and names -/

/-- A digit stands for itself in a value. -/
theorem isPlainInValue_of_isDigit {character : Char} (digit : character.isDigit = true) :
    isPlainInValue character = true := by
  obtain ⟨above, below⟩ := Text.toNat_of_ascii digit
  have allowed : isCharacter character = true := by
    rw [isCharacter, if_neg (by omega), Bool.and_eq_true, decide_eq_true_eq, decide_eq_true_eq]
    omega
  have special : character ∉ ['&', '<', '\'', '\t', '\n', '\r'] := by
    intro member
    simp only [List.mem_cons, List.not_mem_nil, or_false] at member
    rcases member with rfl | rfl | rfl | rfl | rfl | rfl <;> revert digit <;> decide
  rw [isPlainInValue, allowed, Bool.true_and]
  exact decide_eq_true special

/-- So does each digit of a number. -/
theorem isPlainInValue_of_mem_toDigits {value : Nat} {character : Char}
    (member : character ∈ Nat.toDigits 10 value) : isPlainInValue character = true :=
  isPlainInValue_of_isDigit (Nat.isDigit_of_mem_toDigits (by decide) (by decide) member)

/-- And so does each character of a written integer. -/
theorem isPlainInValue_of_mem_toString {value : Int} {character : Char}
    (member : character ∈ (toString value).toList) : isPlainInValue character = true := by
  rw [Text.toList_toString, List.mem_append] at member
  rcases member with sign | digit
  · obtain rfl : character = '-' := by
      split at sign
      · exact List.mem_singleton.mp sign
      · cases sign
    decide
  · exact isPlainInValue_of_mem_toDigits digit

/-- The range of a change can be written. -/
theorem arePlain_attributes (change : Replacement) : ArePlain change.attributes := by
  have offset : Assignment.IsPlain ⟨⟨none, "offset".toList⟩, (toString change.offset).toList⟩ :=
    .unqualified (isName_cons rfl rfl) (by decide) fun _ => isPlainInValue_of_mem_toString
  have length : Assignment.IsPlain ⟨⟨none, "length".toList⟩, (toString change.length).toList⟩ :=
    .unqualified (isName_cons rfl rfl) (by decide) fun _ => isPlainInValue_of_mem_toString
  exact .cons offset (.cons length .nil (by simp)) (by simp)

/-- What a formatter says about all its changes can be written. -/
theorem Extent.arePlain (extent : Extent) : ArePlain extent.attributes := by
  have space : Assignment.IsPlain ⟨⟨some "xml".toList, "space".toList⟩, "preserve".toList⟩ :=
    ⟨isName_cons rfl rfl, .inr rfl, rfl, List.all_eq_true.mp rfl⟩
  have format {value : List Char} (plain : value.all isPlainInValue = true) :
      Assignment.IsPlain ⟨⟨none, "incomplete_format".toList⟩, value⟩ :=
    .unqualified (isName_cons rfl rfl) (by decide) (List.all_eq_true.mp plain)
  cases extent with
  | complete => exact .cons space (.cons (format rfl) .nil (by simp)) (by simp)
  | incomplete number =>
    have digits : (toString number).toList = Nat.toDigits 10 number := by
      simp [toString, Nat.repr]
    have line : Assignment.IsPlain ⟨⟨none, "line".toList⟩, (toString number).toList⟩ :=
      .unqualified (isName_cons rfl rfl) (by decide) fun _ inside =>
        isPlainInValue_of_mem_toDigits (digits ▸ inside)
    exact .cons space (.cons (format rfl) (.cons line .nil (by simp)) (by simp)) (by simp)

/-! ## The elements that are read back -/

/-- The element that gives a change. -/
def element (change : Replacement) : Element :=
  ⟨itemName, change.attributes.map Assignment.resolved, change.text.toList.map .character⟩

/-- A line of a report becomes an element and the end of the line. -/
def nodes (change : Replacement) : List Node :=
  [.element change.element.name change.element.attributes change.element.content, .character '\n']

/-- The line with a change is read back. -/
theorem readText_line {change : Replacement} (reportable : change.IsReportable) (frame : Frame)
    (outer : List Frame) (unbound : frame.bindings = Bindings.initial) (rest : List Char) :
    readText (frame :: outer) (change.line ++ rest) =
      readText (frame.extend change.nodes :: outer) rest := by
  have named : IsName itemName.base := isName_cons rfl rfl
  have item := readText_element named change.arePlain_attributes frame outer unbound
    reportable.text ('\n' :: rest)
  rw [line, List.append_assoc, List.singleton_append, item, readText_lineFeed,
    Frame.extend_extend]
  rfl

example : line ⟨-1, 2, "\n<"⟩ =
    "<replacement offset='-1' length='2'>&#10;&lt;</replacement>\n".toList := by rfl

/-- The lines with changes are read back, one after the other. -/
theorem readText_lines {changes : List Replacement}
    (reportable : ∀ change ∈ changes, change.IsReportable) (frame : Frame) (outer : List Frame)
    (unbound : frame.bindings = Bindings.initial) (rest : List Char) :
    readText (frame :: outer) (changes.flatMap line ++ rest) =
      readText (frame.extend (changes.flatMap nodes) :: outer) rest := by
  induction changes generalizing frame with
  | nil => rfl
  | cons change others inductionHypothesis =>
    obtain ⟨first, later⟩ := List.forall_mem_cons.mp reportable
    have lines := inductionHypothesis later (frame.extend change.nodes) unbound
    rw [List.flatMap_cons, List.append_assoc, readText_line first frame outer unbound, lines,
      Frame.extend_extend, List.flatMap_cons]

/-- The outermost element of a report. -/
def root (heading : List Assignment) (changes : List Replacement) : Element :=
  ⟨listName, heading.map Assignment.resolved, .character '\n' :: changes.flatMap nodes⟩

/-- The outermost element is read back. -/
theorem readText_root {heading : List Assignment} {changes : List Replacement}
    (plain : ArePlain heading) (reportable : ∀ change ∈ changes, change.IsReportable)
    (rest : List Char) :
    readText [] (listText heading changes ++ rest) =
      .ok (.finished (root heading changes) rest) := by
  have named : IsName listName.base := isName_cons rfl rfl
  let frame := openFrame listName.base heading
  let ending := '<' :: '/' :: (listName.base ++ '>' :: rest)
  have form : listText heading changes ++ rest =
      '<' :: startTagText listName.base heading ++ '\n' :: (changes.flatMap line ++ ending) := by
    simp [listText, elementText, ending]
  have opened := readText_startTag named plain [] rfl
    ('\n' :: (changes.flatMap line ++ ending))
  have lines := readText_lines reportable (frame.extend [.character '\n']) [] rfl ending
  rw [form, opened, readText_lineFeed, lines, Frame.extend_extend, readText_lastTag named rfl]
  simp [Frame.element, Frame.extend, frame, openFrame, root, listName]

/-- Nothing in front of the outermost element defines anything. -/
theorem prolog_report (rest : List Char) :
    Prolog.read ("<?xml version='1.0'?>\n".toList ++ '<' :: 'r' :: rest) =
      .ok ({}, '<' :: 'r' :: rest) := by
  set_option maxRecDepth 4000 in rfl

/-- A report is a document with that element. -/
theorem read_report {heading : List Assignment} {changes : List Replacement}
    (plain : ArePlain heading) (reportable : ∀ change ∈ changes, change.IsReportable) :
    Markup.read (report heading changes).toList = .ok (root heading changes) := by
  have read := readText_root plain reportable ['\n']
  obtain ⟨rest, begins⟩ : ∃ rest, listText heading changes ++ ['\n'] = '<' :: 'r' :: rest := by
    -- The prolog is read up to the first character of the name.
    have name : listName.base = 'r' :: "eplacements".toList := rfl
    simp [listText, elementText, startTagText, name]
  rw [begins] at read
  have marked : readMarked ("<?xml version='1.0'?>\n".toList ++ '<' :: 'r' :: rest) =
      .ok (root heading changes) := by
    rw [readMarked, prolog_report]
    dsimp only
    rw [readElement_eq read]
    rfl
  have text : (report heading changes).toList =
      "<?xml version='1.0'?>\n".toList ++ '<' :: 'r' :: rest :=
    String.toList_ofList.trans (congrArg _ begins)
  rw [text]
  -- Neither of the first two characters is a zero byte, and there is no mark in front of them.
  change (readMarked ("<?xml version='1.0'?>\n".toList ++ '<' :: 'r' :: rest)).mapError _ = _
  rw [marked]
  rfl

/-! ## The changes that elements give -/

/-- Characters without a node behind them are all the text of their element. -/
theorem leadingText_characters (text : List Char) : leadingText (text.map .character) = text := by
  induction text with
  | nil => rfl
  | cons character rest inductionHypothesis =>
    rw [List.map_cons, leadingText, inductionHypothesis]

/-- The element of a change gives the change. -/
theorem ofElement_element {change : Replacement} (reportable : change.IsReportable) :
    ofElement change.element = .ok change := by
  have offset : integerOf change.element "offset" = .ok change.offset := by
    change (Text.readInteger (toString change.offset).toList).mapError _ = _
    rw [Text.readInteger_toString reportable.offset]
    rfl
  have length : integerOf change.element "length" = .ok change.length := by
    change (Text.readInteger (toString change.length).toList).mapError _ = _
    rw [Text.readInteger_toString reportable.length]
    rfl
  rw [ofElement, offset, length]
  change Except.ok (Replacement.mk change.offset change.length
    (String.ofList (leadingText (change.text.toList.map .character)))) = _
  rw [leadingText_characters, String.ofList_toList]

/-- The elements in the outermost one are those of the changes. -/
theorem children_root (heading : List Assignment) (changes : List Replacement) :
    (root heading changes).children = changes.map element := by
  rw [Element.children, root, List.filterMap_cons]
  dsimp only
  induction changes with
  | nil => rfl
  | cons change others inductionHypothesis =>
    rw [List.flatMap_cons, List.filterMap_append, inductionHypothesis]
    rfl

/-- The outermost element gives the changes. -/
theorem ofList_root {heading : List Assignment} {changes : List Replacement}
    (reportable : ∀ change ∈ changes, change.IsReportable) :
    ofList (root heading changes) = .ok changes := by
  have items : (changes.map element).filter (·.name = itemName) = changes.map element := by
    rw [List.filter_eq_self]
    intro item member
    obtain ⟨change, -, rfl⟩ := List.mem_map.mp member
    rfl
  have each : ∀ change ∈ changes, (ofElement ∘ element) change = .ok (id change) :=
    fun change member => ofElement_element (reportable change member)
  have named : (root heading changes).name = listName := rfl
  rw [ofList, if_pos named, children_root, items, List.mapM_map, mapM_eq_ok each, List.map_id]

/-- A report of changes is read as the changes, in their order. Their texts come back character
    by character, whatever markup they look like and whatever blanks and line ends they hold. -/
theorem ofReport_report {heading : List Assignment} {changes : List Replacement}
    (plain : ArePlain heading) (reportable : ∀ change ∈ changes, change.IsReportable) :
    ofReport (report heading changes) = .ok changes := by
  rw [ofReport, read_report plain reportable]
  exact ofList_root reportable

/-- A text that is all markup and blanks, and an empty one before the beginning of the file. -/
theorem ofReport_report_markup :
    let changes : List Replacement := [⟨3, 0, "\r\n\t<a b='c'>&amp;\"]]>"⟩, ⟨-1, 2, ""⟩]
    ArePlain (Extent.incomplete 7).attributes ∧ (∀ change ∈ changes, change.IsReportable) ∧
      ofReport (report (Extent.incomplete 7).attributes changes) = .ok changes := by
  have plain := (Extent.incomplete 7).arePlain
  exact ⟨plain, by decide, ofReport_report plain (by decide)⟩

end LintReview.Replacement
