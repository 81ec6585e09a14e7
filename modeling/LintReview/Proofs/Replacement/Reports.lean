import LintReview.Proofs.Markup.Asides
import LintReview.Proofs.Replacement.RoundTrip

/-!
# Which reports are accepted

A report is accepted as a whole or refused as a whole. It is accepted if it is a document, its
outermost element lists changes, and each item of the list gives a change; the changes are then
those of the items, in their order. Otherwise it is refused for the first of these that fails,
and of the items for the first that gives no change. Nothing else in the document matters: no
other attribute, no other element, no text that is not the leading text of an item, and no
comment or instruction (`ofReport_all_or_nothing`).
-/

namespace LintReview.Replacement

open Markup

/-! ## Items -/

/-- The elements directly inside that give changes, in the order of the document. -/
def items (root : Element) : List Element :=
  root.children.filter (·.name = itemName)

/-- An element gives a change: its offset and its length are there and are integers, and the text
is what stands in front of the first element inside. -/
structure Gives (item : Element) (change : Replacement) : Prop where
  offset : ∃ written, item.attribute? "offset" = some written ∧
    Text.readInteger written = .ok change.offset
  length : ∃ written, item.attribute? "length" = some written ∧
    Text.readInteger written = .ok change.length
  text : ∃ behind, item.content = change.text.toList.map .character ++ behind ∧
    ∀ value, behind.head? ≠ some (.character value)

/-- An integer is read exactly if the attribute is there and is one. -/
theorem integerOf_ok_iff {item : Element} {name : String} {value : Int} :
    integerOf item name = .ok value ↔
      ∃ written, item.attribute? name = some written ∧ Text.readInteger written = .ok value := by
  rw [integerOf]
  rcases item.attribute? name with _ | written
  · constructor
    · rintro ⟨⟩
    · rintro ⟨_, ⟨⟩, _⟩
  · rw [Option.getD_some]
    rcases read : Text.readInteger written with cause | other
    · constructor
      · rintro ⟨⟩
      · rintro ⟨_, ⟨⟩, given⟩
        cases read.symm.trans given
    · constructor
      · rintro ⟨⟩
        exact ⟨written, rfl, read⟩
      · rintro ⟨_, ⟨⟩, given⟩
        rw [read] at given
        exact congrArg Except.ok (Except.ok.inj given)

/-- The leading text is cut off where the first element begins. -/
theorem leadingText_split (content : List Node) :
    ∃ behind, content = (leadingText content).map .character ++ behind ∧
      ∀ value, behind.head? ≠ some (.character value) := by
  induction content with
  | nil => exact ⟨[], rfl, nofun⟩
  | cons node rest inductionHypothesis =>
    cases node with
    | character value =>
      obtain ⟨behind, whole, stops⟩ := inductionHypothesis
      exact ⟨behind, congrArg (_ :: ·) whole, stops⟩
    | element name attributes content => exact ⟨_, rfl, nofun⟩

/-- Characters up to the first element are the leading text. -/
theorem leadingText_append (text : List Char) {behind : List Node}
    (stops : ∀ value, behind.head? ≠ some (.character value)) :
    leadingText (text.map .character ++ behind) = text := by
  induction text with
  | nil =>
    match behind with
    | [] => rfl
    | .character value :: _ => exact (stops value rfl).elim
    | .element .. :: _ => rfl
  | cons character text inductionHypothesis =>
    rw [List.map_cons, List.cons_append, leadingText, inductionHypothesis]

/-- An element is read exactly if it gives a change, as that change. -/
theorem ofElement_ok_iff {item : Element} {change : Replacement} :
    ofElement item = .ok change ↔ Gives item change := by
  constructor
  · intro given
    rcases first : integerOf item "offset" with cause | offset
    · rw [ofElement, first] at given
      cases given
    · rcases second : integerOf item "length" with cause | length
      · rw [ofElement, first, second] at given
        cases given
      · rw [ofElement, first, second] at given
        obtain rfl := Except.ok.inj given
        refine ⟨integerOf_ok_iff.mp first, integerOf_ok_iff.mp second, ?_⟩
        rw [String.toList_ofList]
        exact leadingText_split item.content
  · rintro ⟨offset, length, behind, whole, stops⟩
    rw [ofElement, integerOf_ok_iff.mpr offset, integerOf_ok_iff.mpr length, whole,
      leadingText_append _ stops]
    change Except.ok (Replacement.mk change.offset change.length
      (String.ofList change.text.toList)) = _
    rw [String.ofList_toList]

/-- The attribute is no integer, for this cause. One that is missing counts as empty. -/
def Misses (item : Element) (name : String) (cause : Text.NumeralError) : Prop :=
  Text.readInteger ((item.attribute? name).getD []) = .error cause

/-- The element gives no change for this cause: its offset is looked at first. -/
def IsRefused (item : Element) (cause : Text.NumeralError) : Prop :=
  Misses item "offset" cause ∨ (∀ other, ¬ Misses item "offset" other) ∧ Misses item "length" cause

/-- An element is refused for one of its numbers. -/
theorem ofElement_error_iff {item : Element} {problem : Error} :
    ofElement item = .error problem ↔ ∃ cause, IsRefused item cause ∧ problem = .number cause := by
  unfold IsRefused Misses
  rw [ofElement, integerOf, integerOf]
  rcases Text.readInteger ((item.attribute? "offset").getD []) with cause | offset
  · constructor
    · rintro ⟨⟩
      exact ⟨cause, .inl rfl, rfl⟩
    · rintro ⟨_, ⟨⟨⟩⟩ | ⟨none, -⟩, rfl⟩
      · rfl
      · exact (none cause rfl).elim
  · rcases Text.readInteger ((item.attribute? "length").getD []) with cause | length
    · constructor
      · rintro ⟨⟩
        exact ⟨cause, .inr ⟨by rintro _ ⟨⟩, rfl⟩, rfl⟩
      · rintro ⟨_, ⟨⟨⟩⟩ | ⟨-, ⟨⟩⟩, rfl⟩
        rfl
    · constructor
      · rintro ⟨⟩
      · rintro ⟨_, ⟨⟨⟩⟩ | ⟨-, ⟨⟩⟩, _⟩

/-! ## Lists -/

/-- A list is read exactly if it is one and each of its items gives a change. -/
theorem ofList_ok_iff {root : Element} {changes : List Replacement} :
    ofList root = .ok changes ↔
      root.name = listName ∧ List.Forall₂ Gives (items root) changes := by
  rw [ofList]
  by_cases named : root.name = listName
  · rw [if_pos named, mapM_ok_iff]
    simp only [ofElement_ok_iff, named, true_and]
    rfl
  · rw [if_neg named]
    exact ⟨by rintro ⟨⟩, fun given => (named given.1).elim⟩

/-- An item is the first of a list that gives no change. -/
def IsFirstRefused (root : Element) (cause : Text.NumeralError) : Prop :=
  ∃ good bad rest, items root = good ++ bad :: rest ∧
    (∀ item ∈ good, ∃ change, Gives item change) ∧ IsRefused bad cause

/-- A list is refused exactly if it is none, or for the first item that gives no change. -/
theorem ofList_error_iff {root : Element} {problem : Error} :
    ofList root = .error problem ↔
      (root.name ≠ listName ∧ problem = .root root.name) ∨
      (root.name = listName ∧ ∃ cause, IsFirstRefused root cause ∧ problem = .number cause) := by
  rw [ofList]
  by_cases named : root.name = listName
  · rw [if_pos named, mapM_error_iff]
    simp only [ofElement_ok_iff, ofElement_error_iff]
    constructor
    · rintro ⟨good, bad, rest, split, fine, cause, refused, rfl⟩
      exact .inr ⟨named, cause, ⟨good, bad, rest, split, fine, refused⟩, rfl⟩
    · rintro (⟨other, -⟩ | ⟨-, cause, ⟨good, bad, rest, split, fine, refused⟩, rfl⟩)
      · exact (other named).elim
      · exact ⟨good, bad, rest, split, fine, cause, refused, rfl⟩
  · rw [if_neg named]
    constructor
    · rintro ⟨⟩
      exact .inl ⟨named, rfl⟩
    · rintro (⟨-, rfl⟩ | ⟨same, -⟩)
      · rfl
      · exact (named same).elim

/-! ## Reports -/

/-- Why a report is refused. -/
inductive Refuses (report : String) : Error → Prop where
  /-- It is no document. -/
  | markup {failure : Failure} {whole : List Char}
      (unread : Markup.read report.toList = .error (failure, whole)) :
      Refuses report (.markup failure whole)
  /-- The outermost element has another name. -/
  | root {root : Element} (read : Markup.read report.toList = .ok root)
      (other : root.name ≠ listName) : Refuses report (.root root.name)
  /-- One of the items gives no change, and those before it give one. -/
  | number {root : Element} {cause : Text.NumeralError}
      (read : Markup.read report.toList = .ok root) (named : root.name = listName)
      (refused : IsFirstRefused root cause) : Refuses report (.number cause)

/-- A report that is no document is refused for that. -/
theorem ofReport_unread {report : String} {failure : Failure} {whole : List Char}
    (unread : Markup.read report.toList = .error (failure, whole)) :
    ofReport report = .error (.markup failure whole) := by
  rw [ofReport, unread]
  rfl

/-- A document is read as a list. -/
theorem ofReport_read {report : String} {root : Element}
    (read : Markup.read report.toList = .ok root) : ofReport report = ofList root := by
  rw [ofReport, read]
  rfl

/-- A report is accepted exactly if each item of its list gives a change. -/
theorem ofReport_ok_iff {report : String} {changes : List Replacement} :
    ofReport report = .ok changes ↔ ∃ root, Markup.read report.toList = .ok root ∧
      root.name = listName ∧ List.Forall₂ Gives (items root) changes := by
  constructor
  · intro given
    rcases read : Markup.read report.toList with ⟨failure, whole⟩ | root
    · rw [ofReport_unread read] at given
      cases given
    · rw [ofReport_read read, ofList_ok_iff] at given
      exact ⟨root, rfl, given⟩
  · rintro ⟨root, read, given⟩
    rw [ofReport_read read]
    exact ofList_ok_iff.mpr given

/-- A report is refused exactly for the first of the reasons that there are. -/
theorem ofReport_error_iff {report : String} {problem : Error} :
    ofReport report = .error problem ↔ Refuses report problem := by
  constructor
  · intro given
    rcases read : Markup.read report.toList with ⟨failure, whole⟩ | root
    · rw [ofReport_unread read] at given
      obtain rfl := Except.error.inj given
      exact .markup read
    · rw [ofReport_read read, ofList_error_iff] at given
      rcases given with ⟨other, rfl⟩ | ⟨named, cause, refused, rfl⟩
      · exact .root read other
      · exact .number read named refused
  · intro refuses
    cases refuses with
    | markup unread => exact ofReport_unread unread
    | root read other =>
      rw [ofReport_read read, ofList_error_iff]
      exact .inl ⟨other, rfl⟩
    | @number root cause read named refused =>
      rw [ofReport_read read, ofList_error_iff]
      exact .inr ⟨named, cause, refused, rfl⟩

/-! ## What does not matter -/

/-- All that is read of an element that gives a change: its offset, its length and its text. -/
def said (item : Element) : Option (List Char) × Option (List Char) × List Char :=
  (item.attribute? "offset", item.attribute? "length", leadingText item.content)

/-- Items that say the same give the same. -/
theorem ofElement_said {item other : Element} (same : said item = said other) :
    ofElement item = ofElement other := by
  obtain ⟨offset, rest⟩ := Prod.mk.inj same
  obtain ⟨length, text⟩ := Prod.mk.inj rest
  rw [ofElement, ofElement, integerOf, integerOf, integerOf, integerOf, offset, length, text]

/-- Lists with items that say the same give the same. -/
theorem ofList_said {first second : Element} (named : first.name = second.name)
    (same : (items first).map said = (items second).map said) : ofList first = ofList second := by
  have each : (items first).mapM ofElement = (items second).mapM ofElement := by
    generalize items first = elements at *
    generalize items second = others at *
    induction elements generalizing others with
    | nil =>
      obtain rfl := List.map_eq_nil_iff.mp same.symm
      rfl
    | cons item rest inductionHypothesis =>
      obtain ⟨other, later, rfl, alike, behind⟩ := List.map_eq_cons_iff.mp same.symm
      rw [List.mapM_cons, List.mapM_cons, ofElement_said alike.symm,
        inductionHypothesis later behind.symm]
  rw [ofList, ofList, named]
  unfold items at each
  rw [each]

/-! ## All or nothing -/

/-- The text of a report up to the end of the outermost start tag. -/
def heading : List Char :=
  "<?xml version='1.0'?>\n".toList ++ '<' :: startTagText listName.base []

/-- The outermost element is open behind its start tag. -/
theorem isOpenBetween_heading (ending : List Char) : IsOpenBetween heading ending := by
  have named : IsName listName.base := isName_cons rfl rfl
  have begins : startTagText listName.base [] ++ ending =
      'r' :: ("eplacements>".toList ++ ending) := rfl
  obtain ⟨entries, read, given⟩ := token_startTag named ArePlain.nil.each ending
  have opened := openElement_written given ArePlain.nil
    ('<' :: (startTagText listName.base [] ++ ending)) listName.base
  have stepped : ({} : Definitions).step 0 [] 0 []
      ⟨.opening ⟨none, listName.base⟩ ⟨entries, false⟩,
        '<' :: (startTagText listName.base [] ++ ending), ending⟩ =
      .ok (.unfinished [openFrame listName.base []]) := by
    rw [step_take _ _ _ _ _ (by rintro _ ⟨⟩), Definitions.take]
    dsimp only
    rw [bindingsOf, opened]
    rfl
  have whole : heading ++ ending =
      "<?xml version='1.0'?>\n".toList ++ '<' :: 'r' :: ("eplacements>".toList ++ ending) :=
    (List.append_assoc _ _ ending).trans
      (congrArg (fun rest => "<?xml version='1.0'?>\n".toList ++ '<' :: rest) begins)
  refine ⟨{}, '<' :: (startTagText listName.base [] ++ ending), _, [openFrame listName.base []],
    ?_, .further read (.nothing ending), ?_, List.cons_ne_nil _ _⟩
  · rw [whole, begins]
    exact prolog_report _
  · exact (read_of_step stepped []).trans (by rw [Definitions.read])

/-- A report is read as it stands. -/
theorem documentText_heading (rest : List Char) :
    documentText (heading ++ rest) = heading ++ rest := by
  have begins : "<?xml version='1.0'?>\n".toList =
      '<' :: '?' :: "xml version='1.0'?>\n".toList := by decide
  have plain (more : List Char) : documentText ('<' :: '?' :: more) = '<' :: '?' :: more := rfl
  have form : heading ++ rest = '<' :: '?' :: ("xml version='1.0'?>\n".toList ++
      ('<' :: startTagText listName.base []) ++ rest) :=
    congrArg (fun text => text ++ ('<' :: startTagText listName.base []) ++ rest) begins
  exact (congrArg documentText form).trans ((plain _).trans form.symm)

end LintReview.Replacement
