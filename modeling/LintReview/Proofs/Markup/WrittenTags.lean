import LintReview.Markup.Element
import LintReview.Markup.Token
import Mathlib.Data.List.Basic

/-!
# Tags as they are written

A start tag is written with its attributes in single quotes, each after a space. Reading it
gives the attributes back, as long as names are names and values hold no character that would
end them or be read as something else.
-/

namespace LintReview.Markup

/-- A name without a qualifier, as it may stand in a tag. -/
def IsName (name : List Char) : Prop :=
  (∃ first rest, name = first :: rest ∧ isNameStart first = true) ∧
    ∀ character ∈ name, isNameCharacter character = true

/-- A word that begins as a name does and goes on so. -/
theorem isName_cons {first : Char} {rest : List Char} (starts : isNameStart first = true)
    (inside : rest.all isNameCharacter = true) : IsName (first :: rest) := by
  refine ⟨⟨first, rest, rfl, starts⟩, ?_⟩
  rw [List.forall_mem_cons]
  exact ⟨isNameCharacter_of_isNameStart starts, List.all_eq_true.mp inside⟩

/-- A character that stands for itself in a value between single quotes. -/
def isPlainInValue (character : Char) : Bool :=
  isCharacter character && character ∉ ['&', '<', '\'', '\t', '\n', '\r']

/-- An attribute that is written as it is. It declares no namespace, and its name is in none
    or in the one that every document knows. -/
structure Assignment.IsPlain (assignment : Assignment) : Prop where
  base : IsName assignment.name.base
  familiar : assignment.name.qualifier = none ∨ assignment.name.qualifier = some "xml".toList
  undeclaring : assignment.name.declares? = none
  value : ∀ character ∈ assignment.value, isPlainInValue character = true

/-- Attributes that can be written in one tag. -/
structure ArePlain (attributes : List Assignment) : Prop where
  each : ∀ assignment ∈ attributes, assignment.IsPlain
  distinct : (attributes.map Assignment.name).Nodup

/-- An attribute as it is written after the name of an element. -/
def Assignment.written (assignment : Assignment) : List Char :=
  ' ' :: assignment.name.written ++ '=' :: '\'' :: assignment.value ++ ['\'']

/-- A start tag without its opening bracket. -/
def startTagText (name : List Char) (attributes : List Assignment) : List Char :=
  name ++ attributes.flatMap Assignment.written ++ ['>']

/-- An attribute was read from the form in which it is written. -/
def AttributeText.Gives (entry : AttributeText) (assignment : Assignment) : Prop :=
  entry.name = assignment.name ∧ entry.value = assignment.value.map .character

/-- No attributes can be written in one tag. -/
theorem ArePlain.nil : ArePlain [] :=
  ⟨fun _ member => absurd member List.not_mem_nil, List.nodup_nil⟩

/-- One more can be, if its name is new. -/
theorem ArePlain.cons {assignment : Assignment} {others : List Assignment}
    (first : assignment.IsPlain) (later : ArePlain others)
    (new : assignment.name ∉ others.map Assignment.name) : ArePlain (assignment :: others) where
  each := List.forall_mem_cons.mpr ⟨first, later.each⟩
  distinct := List.nodup_cons.mpr ⟨new, later.distinct⟩

/-- The qualifier of such an attribute is a name itself. -/
theorem Assignment.IsPlain.qualifier {assignment : Assignment} (plain : assignment.IsPlain)
    (qualifier : List Char) (qualified : assignment.name.qualifier = some qualifier) :
    IsName qualifier := by
  rcases plain.familiar with none | language
  · rw [none] at qualified
    cases qualified
  · obtain rfl := Option.some.inj (language.symm.trans qualified)
    exact isName_cons rfl rfl

/-- An attribute with a mere name and a plain value is written as it is. -/
theorem Assignment.IsPlain.unqualified {base value : List Char} (named : IsName base)
    (undeclaring : base ≠ declarator) (plain : ∀ c ∈ value, isPlainInValue c = true) :
    IsPlain ⟨⟨none, base⟩, value⟩ where
  base := named
  familiar := .inl rfl
  undeclaring := if_neg undeclaring
  value := plain

/-- A run of name characters is taken up to the first other character. -/
theorem cut_name {name : List Char} {stop : Char}
    (inside : ∀ character ∈ name, isNameCharacter character = true)
    (outside : isNameCharacter stop = false) (rest : List Char) :
    (name ++ stop :: rest).takeWhile isNameCharacter = name ∧
      (name ++ stop :: rest).dropWhile isNameCharacter = stop :: rest := by
  rw [List.takeWhile_append_of_pos inside, List.dropWhile_append_of_pos inside]
  simp [outside]

/-- What begins a name is no blank. -/
theorem not_blank_of_isNameStart {character : Char} (starts : isNameStart character = true) :
    isBlank character = false := by
  by_contra blank
  simp only [isBlank, Bool.or_eq_true, decide_eq_true_eq, Bool.not_eq_false] at blank
  rcases blank with ((rfl | rfl) | rfl) | rfl <;> revert starts <;> decide

/-- The part of a name after the colon is read back up to the equals sign. -/
theorem namePart_written {base : List Char} (plain : IsName base) (qualifier rest : List Char) :
    namePart qualifier (base ++ '=' :: rest) = .ok (⟨some qualifier, base⟩, '=' :: rest) := by
  obtain ⟨⟨first, others, rfl, starts⟩, inside⟩ := plain
  obtain ⟨taken, left⟩ := cut_name inside (by decide : isNameCharacter '=' = false) rest
  rw [List.cons_append] at taken left ⊢
  unfold namePart
  dsimp only
  rw [if_pos starts, left, taken]
  rfl

/-- A space in front of a name is skipped, and nothing else. -/
theorem skip_space {first : Char} (starts : isNameStart first = true) (rest : List Char) :
    (' ' :: first :: rest).dropWhile isBlank = first :: rest := by
  rw [List.dropWhile_cons_of_pos rfl,
    List.dropWhile_cons_of_neg (by simp [not_blank_of_isNameStart starts])]

/-- A name is read back up to the equals sign. -/
theorem qualifiedName_written {name : QualifiedName} (base : IsName name.base)
    (qualifier : ∀ qualifier, name.qualifier = some qualifier → IsName qualifier)
    (rest : List Char) :
    qualifiedName (name.written ++ '=' :: rest) = .ok (name, '=' :: rest) := by
  obtain ⟨known, written⟩ := name
  cases known with
  | none =>
    obtain ⟨taken, left⟩ := cut_name base.2 (by decide : isNameCharacter '=' = false) rest
    rw [QualifiedName.written, qualifiedName, left, taken]
    rfl
  | some known =>
    obtain ⟨taken, left⟩ := cut_name (qualifier known rfl).2
      (by decide : isNameCharacter ':' = false) (written ++ '=' :: rest)
    rw [QualifiedName.written, List.append_assoc, List.cons_append, qualifiedName, left, taken]
    exact namePart_written base known rest

/-- A character that ends the value of an attribute, or is read as something else, is not
    plain. -/
theorem plain_ne {character other : Char} (plain : isPlainInValue character = true)
    (special : isPlainInValue other = false) : character ≠ other := by
  rintro rfl
  rw [plain] at special
  cases special

/-- A plain character stands for itself. -/
theorem asSpace_plain {character : Char} (plain : isPlainInValue character = true) :
    (if isBlank character then ' ' else character) = character := by
  split
  · next blank =>
    have tab := plain_ne plain (by decide : isPlainInValue '\t' = false)
    have feed := plain_ne plain (by decide : isPlainInValue '\n' = false)
    have carriage := plain_ne plain (by decide : isPlainInValue '\r' = false)
    simpa [isBlank, tab, feed, carriage, eq_comm] using blank
  · rfl

/-- A plain value is read back up to its closing quote. -/
theorem pieces_plain {value : List Char} (plain : ∀ c ∈ value, isPlainInValue c = true)
    (rest : List Char) :
    pieces (some '\'') (value ++ '\'' :: rest) = .ok (value.map .character, rest) := by
  induction value with
  | nil =>
    rw [List.nil_append, pieces]
    · rfl
    · rintro more ⟨⟩
    · simp
  | cons character others inductionHypothesis =>
    obtain ⟨first, later⟩ := List.forall_mem_cons.mp plain
    have quote := plain_ne first (by decide : isPlainInValue '\'' = false)
    have angle := plain_ne first (by decide : isPlainInValue '<' = false)
    have allowed : isCharacter character = true := by
      simp only [isPlainInValue, Bool.and_eq_true] at first
      exact first.1
    rw [List.cons_append, pieces, inductionHypothesis later]
    -- The other two readings need a carriage return or an ampersand here.
    · simp [quote, angle, allowed, asSpace_plain first]
    · rintro more rfl
      exact absurd rfl (plain_ne first (by decide : isPlainInValue '\r' = false))
    · rintro rfl
      exact absurd rfl (plain_ne first (by decide : isPlainInValue '&' = false))

/-- An attribute is read back. -/
theorem attributeText_written {assignment : Assignment} (plain : assignment.IsPlain)
    (rest : List Char) :
    ∃ entry, attributeText (assignment.written.tail ++ rest) = .ok (entry, rest) ∧
      entry.Gives assignment := by
  have named := qualifiedName_written plain.base plain.qualifier
    ('\'' :: assignment.value ++ '\'' :: rest)
  have valued := pieces_plain plain.value rest
  have text : assignment.written.tail ++ rest =
      assignment.name.written ++ '=' :: ('\'' :: assignment.value ++ '\'' :: rest) := by
    simp [Assignment.written]
  refine ⟨⟨assignment.name, assignment.written.tail ++ rest, assignment.value.map .character⟩,
    ?_, rfl, rfl⟩
  have assigned : assignedValue ('=' :: ('\'' :: assignment.value ++ '\'' :: rest)) =
      .ok (assignment.value.map .character, rest) := valued
  rw [attributeText, text, named]
  dsimp only
  rw [assigned]

/-- The first character of an attribute after its space begins a name. -/
theorem written_starts {assignment : Assignment} (plain : assignment.IsPlain) :
    ∃ first rest, assignment.written = ' ' :: first :: rest ∧ isNameStart first = true := by
  obtain ⟨⟨known, written⟩, value⟩ := assignment
  obtain ⟨⟨first, others, based, starts⟩, -⟩ := plain.base
  cases known with
  | none =>
    obtain rfl : written = first :: others := based
    exact ⟨first, _, rfl, starts⟩
  | some known =>
    obtain ⟨⟨head, tail, rfl, begins⟩, -⟩ := plain.qualifier known rfl
    exact ⟨head, _, rfl, begins⟩

/-- After a blank, an attribute is read, and then what stands behind it. -/
theorem tagEnd_attribute {text after : List Char} {first : Char} {rest : List Char}
    {entry : AttributeText} (blank : text.head?.any isBlank = true)
    (skipped : text.dropWhile isBlank = first :: rest) (starts : isNameStart first = true)
    (found : attributeText (first :: rest) = .ok (entry, after)) :
    tagEnd text =
      match tagEnd after with
      | .error stop => .error stop
      | .ok (others, ending) => .ok (⟨entry :: others.attributes, others.closed⟩, ending) := by
  rw [tagEnd, if_pos blank]
  split
  · next nothing =>
    rw [nothing] at skipped
    cases skipped
  · next other more same =>
    obtain ⟨rfl, rfl⟩ := List.cons.inj (skipped.symm.trans same)
    rw [if_pos starts]
    split
    · next stop failed =>
      rw [found] at failed
      cases failed
    · next known ending succeeded =>
      obtain ⟨rfl, rfl⟩ := Prod.mk.inj (Except.ok.inj (found.symm.trans succeeded))
      rfl

/-- What stands after the name in a start tag is read back. -/
theorem tagEnd_written {attributes : List Assignment}
    (plain : ∀ assignment ∈ attributes, assignment.IsPlain) (rest : List Char) :
    ∃ entries, tagEnd (attributes.flatMap Assignment.written ++ '>' :: rest) =
        .ok (⟨entries, false⟩, rest) ∧
      List.Forall₂ AttributeText.Gives entries attributes := by
  induction attributes with
  | nil =>
    refine ⟨[], ?_, .nil⟩
    rw [List.flatMap_nil, List.nil_append, tagEnd]
    rfl
  | cons assignment others inductionHypothesis =>
    obtain ⟨first, later⟩ := List.forall_mem_cons.mp plain
    obtain ⟨entries, ended, given⟩ := inductionHypothesis later
    obtain ⟨entry, found, gives⟩ :=
      attributeText_written first (others.flatMap Assignment.written ++ '>' :: rest)
    obtain ⟨head, tail, written, starts⟩ := written_starts first
    refine ⟨entry :: entries, ?_, .cons gives given⟩
    rw [written, List.tail_cons, List.cons_append] at found
    rw [List.flatMap_cons, List.append_assoc, written, List.cons_append, List.cons_append,
      tagEnd_attribute rfl (skip_space starts _) starts found, ended]

/-- The name of the element in a start tag is read back, up to the first attribute or to the
    end of the tag. -/
theorem qualifiedName_element {name : List Char} {stop : Char}
    (inside : ∀ character ∈ name, isNameCharacter character = true)
    (ends : stop = ' ' ∨ stop = '>') (rest : List Char) :
    qualifiedName (name ++ stop :: rest) = .ok (⟨none, name⟩, stop :: rest) := by
  have outside : isNameCharacter stop = false := by
    rcases ends with rfl | rfl
    · decide
    · decide
  obtain ⟨taken, left⟩ := cut_name inside outside rest
  rw [qualifiedName, left, taken]
  rcases ends with rfl | rfl
  · rfl
  · rfl

/-- What begins with a bracket and a name is a start tag. -/
theorem token_name {first : Char} (starts : isNameStart first = true) (rest : List Char) :
    token '<' (first :: rest) = located ('<' :: first :: rest) id (startTag (first :: rest)) := by
  change angled (first :: rest) = _
  have absurdly {other : Char} (same : first = other) (fails : isNameStart other = false) :
      False := by
    rw [same, fails] at starts
    cases starts
  unfold angled
  -- What begins a section, an aside or an end tag begins no name.
  split
  · next nothing => cases nothing
  · next same => exact (absurdly (List.cons.inj same).1 (by decide)).elim
  · next same => exact (absurdly (List.cons.inj same).1 (by decide)).elim
  · next same => exact (absurdly (List.cons.inj same).1 (by decide)).elim
  · next same => exact (absurdly (List.cons.inj same).1 (by decide)).elim
  · next same => exact (absurdly (List.cons.inj same).1 (by decide)).elim
  · next same => exact (absurdly (List.cons.inj same).1 (by decide)).elim
  · next same =>
    obtain ⟨rfl, rfl⟩ := List.cons.inj same
    rw [if_pos starts]

/-- A start tag is read back. -/
theorem token_startTag {name : List Char} {attributes : List Assignment} (named : IsName name)
    (plain : ∀ assignment ∈ attributes, assignment.IsPlain) (rest : List Char) :
    ∃ entries, token '<' (startTagText name attributes ++ rest) =
        .ok (.opening ⟨none, name⟩ ⟨entries, false⟩, rest) ∧
      List.Forall₂ AttributeText.Gives entries attributes := by
  obtain ⟨entries, ended, given⟩ := tagEnd_written plain rest
  obtain ⟨⟨first, others, rfl, starts⟩, inside⟩ := named
  have tag : startTagText (first :: others) attributes ++ rest =
      (first :: others) ++ (attributes.flatMap Assignment.written ++ '>' :: rest) := by
    simp [startTagText]
  have stops : ∃ stop more, attributes.flatMap Assignment.written ++ '>' :: rest = stop :: more ∧
      (stop = ' ' ∨ stop = '>') := by
    cases attributes with
    | nil => exact ⟨'>', rest, rfl, .inr rfl⟩
    | cons assignment later => exact ⟨' ', _, rfl, .inl rfl⟩
  obtain ⟨stop, more, same, ends⟩ := stops
  refine ⟨entries, ?_, given⟩
  rw [same] at ended
  have read := qualifiedName_element inside ends more
  rw [tag, same, List.cons_append, token_name starts, startTag, ← List.cons_append, read]
  dsimp only
  rw [ended]
  rfl

/-- An end tag is read back. -/
theorem token_endTag {name : List Char} (named : IsName name) (rest : List Char) :
    token '<' ('/' :: (name ++ '>' :: rest)) = .ok (.closing name, rest) := by
  obtain ⟨⟨first, others, rfl, starts⟩, inside⟩ := named
  have kept : ∀ character ∈ first :: others, isEndTagCharacter character = true := by
    intro character member
    rw [isEndTagCharacter, inside character member, Bool.true_or]
  have taken : (first :: others ++ '>' :: rest).takeWhile isEndTagCharacter = first :: others := by
    rw [List.takeWhile_append_of_pos kept]
    simp [isEndTagCharacter, isNameCharacter]
  have left : (first :: others ++ '>' :: rest).dropWhile isEndTagCharacter = '>' :: rest := by
    rw [List.dropWhile_append_of_pos kept]
    simp [isEndTagCharacter, isNameCharacter]
  have ended : endTag (first :: (others ++ '>' :: rest)) = .ok (first :: others, rest) := by
    rw [List.cons_append] at taken left
    unfold endTag
    dsimp only
    rw [if_pos starts, taken, left]
    rfl
  exact congrArg (located _ Token.closing) ended

end LintReview.Markup
