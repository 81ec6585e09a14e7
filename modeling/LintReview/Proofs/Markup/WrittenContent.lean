import LintReview.Markup.Content
import LintReview.Proofs.Markup.WrittenTags

/-!
# Content as it is written

A text is written inside an element with references in the place of all characters that mean
something there, and of line ends, which would not be kept. It is read back character by
character, and so is an element with such a text in it: nothing is added to the elements around
it but the element itself. The document must not define anything.
-/

namespace LintReview.Markup

/-- A character of a text as it is written inside an element. -/
def spelled : Char → List Char
  | '&' => "&amp;".toList
  | '<' => "&lt;".toList
  | '>' => "&gt;".toList
  | '\'' => "&apos;".toList
  | '"' => "&quot;".toList
  | '\n' => "&#10;".toList
  | '\r' => "&#13;".toList
  | character => [character]

/-- A text as it is written inside an element. -/
def spelledText (text : List Char) : List Char := text.flatMap spelled

@[simp]
theorem spelledText_nil : spelledText [] = [] := rfl

@[simp]
theorem spelledText_cons (character : Char) (rest : List Char) :
    spelledText (character :: rest) = spelled character ++ spelledText rest :=
  List.flatMap_cons

/-- An element as it is written, with the text of its content. -/
def elementText (name : List Char) (attributes : List Assignment) (content : List Char) :
    List Char :=
  '<' :: startTagText name attributes ++ content ++ '<' :: '/' :: name ++ ['>']

/-- What reading a text leads to where elements are open, in a document that defines nothing. -/
def readText (frames : List Frame) (text : List Char) : Except Failure Reading :=
  ({} : Definitions).read 0 [] 0 frames (lexemes text).items

section Steps

variable {first : Char} {rest after : List Char} {frames : List Frame}

/-- A text is cut into tokens from the front. -/
theorem lexemes_cons {found : Token} (read : token first rest = .ok (found, after)) :
    lexemes (first :: rest) =
      ⟨⟨found, first :: rest, after⟩ :: (lexemes after).items, (lexemes after).failure⟩ := by
  rw [lexemes]
  split
  · next failed =>
    rw [read] at failed
    cases failed
  · next other ending succeeded =>
    obtain ⟨rfl, rfl⟩ := Prod.mk.inj (Except.ok.inj (read.symm.trans succeeded))
    rfl

/-- A token that is no reference to an entity is taken up. Reading goes on behind it, unless it
    closes the outermost element. -/
theorem readText_cons (found : Token) (read : token first rest = .ok (found, after))
    (other : ∀ name, found ≠ .reference (.entity name)) :
    readText frames (first :: rest) =
      match ({} : Definitions).take [] 0 frames ⟨found, first :: rest, after⟩ with
      | .error failure => .error failure
      | .ok (.finished element ending) => .ok (.finished element ending)
      | .ok (.unfinished next) => readText next after := by
  rw [readText, lexemes_cons read, Definitions.read]
  split
  · next name same => exact (other name same).elim
  · rfl

/-- A reference to one of the entities that every document knows stands for a character. -/
theorem readText_entity {name : List Char} {value : Char}
    (read : token first rest = .ok (.reference (.entity name), after))
    (known : predefined? name = some value) :
    readText frames (first :: rest) = readText (addNode (.character value) frames) after := by
  rw [readText, lexemes_cons read, Definitions.read]
  dsimp only
  rw [known]
  rfl

/-- The outermost element of a document is what reading its text ends with. -/
theorem readElement_eq {text : List Char} {element : Element}
    (read : readText [] text = .ok (.finished element after)) :
    ({} : Definitions).readElement text = .ok (element, after) := by
  have through : ({} : Definitions).read ({} : Definitions).entities.length [] 0 []
      (lexemes text).items = .ok (.finished element after) := read
  rw [Definitions.readElement]
  dsimp only
  rw [through]

end Steps

/-! ## Texts -/

/-- An open element with more at the end of its content. -/
def Frame.extend (frame : Frame) (nodes : List Node) : Frame :=
  { frame with content := nodes.reverse ++ frame.content }

/-- One part of the content after the other. -/
theorem Frame.extend_extend (frame : Frame) (nodes others : List Node) :
    (frame.extend nodes).extend others = frame.extend (nodes ++ others) := by
  simp [extend]

/-- A character is written as it is or as a reference. -/
theorem spelled_cases (character : Char) :
    (spelled character = [character] ∧ character ≠ '>') ∨
      ∃ more, spelled character = '&' :: more := by
  unfold spelled
  split
  case h_8 unlike _ _ _ _ => exact .inl ⟨rfl, unlike⟩
  all_goals exact .inr ⟨_, rfl⟩

/-- A written text and the tag behind it do not begin with a bracket that closes. -/
theorem spelledText_ne_closing (text rest after : List Char) :
    spelledText text ++ '<' :: rest ≠ '>' :: after := by
  cases text with
  | nil => simp
  | cons character others =>
    rw [spelledText_cons]
    rcases spelled_cases character with ⟨alone, unlike⟩ | ⟨more, reference⟩
    · simp [alone, unlike]
    · simp [reference]

/-- Nor do they begin with the end of a section, after its first bracket. -/
theorem spelledText_ne_ending (text rest after : List Char) :
    spelledText text ++ '<' :: rest ≠ ']' :: '>' :: after := by
  cases text with
  | nil => simp
  | cons character others =>
    have later := spelledText_ne_closing others rest after
    rw [spelledText_cons, List.append_assoc]
    rcases spelled_cases character with ⟨alone, -⟩ | ⟨more, reference⟩
    · rw [alone, List.singleton_append]
      intro same
      exact later (List.cons.inj same).2
    · simp [reference]

/-- A character that is written as it is, is a token by itself. -/
theorem token_alone {character : Char} (allowed : isCharacter character = true)
    (alone : spelled character = [character]) {rest : List Char}
    (apart : ∀ after, rest ≠ ']' :: '>' :: after) :
    token character rest = .ok (.character character, rest) := by
  have unlike {other : Char} (longer : (spelled other).length ≠ 1) : character ≠ other := by
    rintro rfl
    rw [alone] at longer
    exact longer rfl
  unfold token
  rw [if_neg (unlike (by decide)), if_neg (unlike (by decide)), if_neg (unlike (by decide)),
    if_neg (by simp [allowed])]
  -- Only two brackets and the end of a tag in a row are refused, so the rest has to be known.
  by_cases bracket : character = ']'
  · subst bracket
    rw [if_pos rfl]
    split
    · next after => exact (apart after rfl).elim
    · rfl
  · rw [if_neg bracket]

/-- A character that a document may hold is read back. -/
theorem readText_spelled {character : Char} (allowed : isCharacter character = true)
    (frame : Frame) (outer : List Frame) {rest : List Char}
    (apart : ∀ after, rest ≠ ']' :: '>' :: after) :
    readText (frame :: outer) (spelled character ++ rest) =
      readText (frame.extend [.character character] :: outer) rest := by
  unfold spelled
  split
  case h_1 => exact readText_entity rfl rfl
  case h_2 => exact readText_entity rfl rfl
  case h_3 => exact readText_entity rfl rfl
  case h_4 => exact readText_entity rfl rfl
  case h_5 => exact readText_entity rfl rfl
  case h_6 => exact readText_cons (.reference (.number 10)) rfl (by rintro _ ⟨⟩)
  case h_7 => exact readText_cons (.reference (.number 13)) rfl (by rintro _ ⟨⟩)
  case h_8 =>
    have alone : spelled character = [character] := by
      unfold spelled
      split <;> first | contradiction | rfl
    exact readText_cons (.character character) (token_alone allowed alone apart)
      (by rintro _ ⟨⟩)

/-- The end of a line is read as it stands. -/
theorem readText_lineFeed (frame : Frame) (outer : List Frame) (rest : List Char) :
    readText (frame :: outer) ('\n' :: rest) =
      readText (frame.extend [.character '\n'] :: outer) rest :=
  readText_cons (.character '\n') rfl (by rintro _ ⟨⟩)

/-- A text of characters that a document may hold is read back, up to the next tag. -/
theorem readText_text {text : List Char} (allowed : ∀ c ∈ text, isCharacter c = true)
    (frame : Frame) (outer : List Frame) (rest : List Char) :
    readText (frame :: outer) (spelledText text ++ '<' :: rest) =
      readText (frame.extend (text.map .character) :: outer) ('<' :: rest) := by
  induction text generalizing frame with
  | nil => rfl
  | cons character others inductionHypothesis =>
    obtain ⟨first, later⟩ := List.forall_mem_cons.mp allowed
    rw [spelledText_cons, List.append_assoc,
      readText_spelled first frame outer (spelledText_ne_ending others rest),
      inductionHypothesis later, Frame.extend_extend]
    rfl

/-! ## Elements -/

/-- The value of an attribute that was read is the value that was written. -/
theorem value_plain (value : List Char) :
    ({} : Definitions).value [] true (value.map .character) = .ok value := by
  have replaced : ({} : Definitions).replace 0 [] (value.map .character) = .ok value := by
    induction value with
    | nil => rw [List.map_nil, Definitions.replace]
    | cons character others inductionHypothesis =>
      rw [List.map_cons, Definitions.replace, inductionHypothesis]
  rw [Definitions.value]
  change Except.map _ (({} : Definitions).replace 0 [] _) = _
  rw [replaced]
  rfl

/-- An attribute behind others differs from each of them in its name. -/
theorem ArePlain.name_ne {known others : List Assignment} {assignment other : Assignment}
    (plain : ArePlain (known ++ assignment :: others)) (member : other ∈ known) :
    other.name ≠ assignment.name := by
  have distinct := plain.distinct
  rw [List.map_append, List.map_cons, List.nodup_append] at distinct
  exact distinct.2.2 other.name (List.mem_map_of_mem member) assignment.name List.mem_cons_self

/-- The attributes that were read are those that were written. -/
theorem assignments_written {entries : List AttributeText} {attributes : List Assignment}
    (given : List.Forall₂ AttributeText.Gives entries attributes) (known : List Assignment)
    (plain : ArePlain (known ++ attributes)) (element start : List Char) :
    ({} : Definitions).assignments [] element start known entries = .ok (known ++ attributes) := by
  induction given generalizing known with
  | nil => rw [List.append_nil, Definitions.assignments]
  | @cons entry assignment entries others gives given inductionHypothesis =>
    obtain ⟨here, text⟩ := entry
    obtain ⟨rfl, rfl⟩ := gives
    have new : known.any (fun other => other.name = assignment.name) = false := by
      rw [List.any_eq_false]
      intro other member same
      exact plain.name_ne member (of_decide_eq_true same)
    have checked : assignment.check start = .ok () := by
      rw [Assignment.check, (plain.each assignment (by simp)).undeclaring]
    have append : known ++ assignment :: others = known ++ [assignment] ++ others := by simp
    rw [append] at plain ⊢
    -- One attribute is evaluated and checked, and the others are read with it known.
    rw [Definitions.assignments, new]
    change ((({} : Definitions).value [] true (assignment.value.map .character)).mapError _ >>=
      fun value => Assignment.check ⟨assignment.name, value⟩ start >>= fun _ =>
        ({} : Definitions).assignments [] element start (known ++ [⟨assignment.name, value⟩])
          entries) = _
    rw [value_plain]
    change (assignment.check start >>= fun _ =>
      ({} : Definitions).assignments [] element start (known ++ [assignment]) entries) = _
    rw [checked]
    exact inductionHypothesis (known ++ [assignment]) plain

/-- Plain attributes bind no namespaces. -/
theorem declared_plain {attributes : List Assignment}
    (plain : ∀ assignment ∈ attributes, assignment.IsPlain) : declared attributes = [] := by
  rw [declared, List.reverse_eq_nil_iff, List.filterMap_eq_nil_iff]
  intro assignment member
  rw [(plain assignment member).undeclaring]
  rfl

/-- A plain attribute with its namespace. -/
def Assignment.resolved (assignment : Assignment) : Attribute :=
  (⟨assignment.name.qualifier.map fun _ => languageSpace, assignment.name.base⟩, assignment.value)

/-- Where a document has bound nothing yet, a plain attribute has a name. -/
theorem Assignment.IsPlain.attributeName? {assignment : Assignment}
    (plain : assignment.IsPlain) :
    Bindings.initial.attributeName? assignment.name = some assignment.resolved.1 := by
  obtain ⟨⟨qualifier, base⟩, value⟩ := assignment
  rcases plain.familiar with rfl | rfl
  · rfl
  · rfl

/-- Two plain attributes with one name are written with the same name. -/
theorem Assignment.IsPlain.name_eq {assignment other : Assignment} (plain : assignment.IsPlain)
    (familiar : other.IsPlain) (same : other.resolved.1 = assignment.resolved.1) :
    other.name = assignment.name := by
  obtain ⟨⟨qualifier, base⟩, value⟩ := assignment
  obtain ⟨⟨qualifier', base'⟩, value'⟩ := other
  rcases plain.familiar with rfl | rfl
  all_goals
    rcases familiar.familiar with rfl | rfl
    all_goals simp_all [Assignment.resolved]

/-- Plain attributes are given their names. -/
theorem nameAttributes_plain {attributes : List Assignment} (known : List Assignment)
    (plain : ArePlain (known ++ attributes)) (start : List Char) :
    nameAttributes Bindings.initial start (known.map Assignment.resolved) attributes =
      .ok ((known ++ attributes).map Assignment.resolved) := by
  induction attributes generalizing known with
  | nil => rw [List.append_nil, nameAttributes]
  | cons assignment others inductionHypothesis =>
    have here : assignment.IsPlain := plain.each assignment (by simp)
    have new : (known.map Assignment.resolved).any
        (fun other => other.1 = assignment.resolved.1) = false := by
      rw [List.any_eq_false]
      intro other member same
      obtain ⟨earlier, among, rfl⟩ := List.mem_map.mp member
      have familiar : earlier.IsPlain := plain.each earlier (List.mem_append_left _ among)
      exact plain.name_ne among (here.name_eq familiar (of_decide_eq_true same))
    have append : known ++ assignment :: others = known ++ [assignment] ++ others := by simp
    rw [append] at plain ⊢
    rw [nameAttributes, here.undeclaring, if_neg (by simp), here.attributeName?]
    dsimp only
    rw [new, if_neg (by simp), ← inductionHypothesis (known ++ [assignment]) plain,
      List.map_append]
    rfl

/-- The frame of an element that has been opened, with its name and its attributes. -/
def openFrame (name : List Char) (attributes : List Assignment) : Frame :=
  ⟨name, ⟨none, name⟩, attributes.map Assignment.resolved, Bindings.initial, []⟩

/-- An element that was written is opened. -/
theorem openElement_written {entries : List AttributeText} {attributes : List Assignment}
    (given : List.Forall₂ AttributeText.Gives entries attributes) (plain : ArePlain attributes)
    (start name : List Char) :
    ({} : Definitions).openElement [] Bindings.initial start ⟨none, name⟩ ⟨entries, false⟩ =
      .ok (openFrame name attributes) := by
  have assigned := assignments_written given [] plain name start
  have resolved := nameAttributes_plain [] plain start
  rw [List.nil_append] at assigned resolved
  rw [Definitions.openElement]
  change (({} : Definitions).assignments [] name start [] entries >>= fun given => _) = _
  rw [assigned]
  change (nameAttributes (declared attributes ++ Bindings.initial) start [] attributes >>=
    fun names => _) = _
  rw [declared_plain plain.each, List.nil_append]
  change (nameAttributes Bindings.initial start ([].map Assignment.resolved) attributes >>=
    fun names => _) = _
  rw [resolved]
  rfl

section Tags

variable {name : List Char} {attributes : List Assignment}

/-- A start tag opens an element inside those that are open. -/
theorem readText_startTag (isName : IsName name) (plain : ArePlain attributes)
    (frames : List Frame) (unbound : bindingsOf frames = Bindings.initial) (rest : List Char) :
    readText frames ('<' :: startTagText name attributes ++ rest) =
      readText (openFrame name attributes :: frames) rest := by
  obtain ⟨entries, read, given⟩ := token_startTag isName plain.each rest
  have opened := openElement_written given plain
    ('<' :: (startTagText name attributes ++ rest)) name
  rw [List.cons_append, readText_cons _ read (by rintro _ ⟨⟩), Definitions.take]
  dsimp only
  rw [unbound, opened]
  rfl

/-- An end tag closes the innermost element, which becomes a part of the one around it. -/
theorem readText_endTag (isName : IsName name) {frame next : Frame} {outer : List Frame}
    (written : frame.written = name) (rest : List Char) :
    readText (frame :: next :: outer) ('<' :: '/' :: (name ++ '>' :: rest)) =
      readText (next.extend [.element frame.name frame.attributes frame.content.reverse] :: outer)
        rest := by
  rw [readText_cons _ (token_endTag isName rest) (by rintro _ ⟨⟩), Definitions.take]
  dsimp only
  rw [if_neg (by simp), if_pos written]
  rfl

/-- The end tag of the outermost element ends the reading. -/
theorem readText_lastTag (isName : IsName name) {frame : Frame}
    (written : frame.written = name) (rest : List Char) :
    readText [frame] ('<' :: '/' :: (name ++ '>' :: rest)) =
      .ok (.finished frame.element rest) := by
  rw [readText_cons _ (token_endTag isName rest) (by rintro _ ⟨⟩), Definitions.take]
  dsimp only
  rw [if_neg (by simp), if_pos written]
  rfl

/-- An element with a text in it is read back, and becomes a part of the element around it. -/
theorem readText_element (isName : IsName name) (plain : ArePlain attributes) (frame : Frame)
    (outer : List Frame) (unbound : frame.bindings = Bindings.initial) {text : List Char}
    (allowed : ∀ c ∈ text, isCharacter c = true) (rest : List Char) :
    readText (frame :: outer) (elementText name attributes (spelledText text) ++ rest) =
      readText (frame.extend [.element ⟨none, name⟩ (attributes.map Assignment.resolved)
        (text.map .character)] :: outer) rest := by
  have form : elementText name attributes (spelledText text) ++ rest =
      '<' :: startTagText name attributes ++
        (spelledText text ++ '<' :: '/' :: (name ++ '>' :: rest)) := by
    simp [elementText]
  have opened := readText_startTag isName plain (frame :: outer) unbound
    (spelledText text ++ '<' :: '/' :: (name ++ '>' :: rest))
  rw [form, opened, readText_text allowed, readText_endTag isName rfl]
  simp [Frame.extend, openFrame]

end Tags

end LintReview.Markup
