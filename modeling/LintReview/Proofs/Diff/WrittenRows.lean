import LintReview.Proofs.Diff.Written
import LintReview.Proofs.Text.Numerals

/-!
# Rows of written changes

Every line that stands outside a written block is of one sort, and the reader takes it for
that sort: the opening line, the notices on modes, the two names and the header of a block.
The remaining lines of a file's header say nothing to the reader.
-/

namespace LintReview.Diff.Written

open Text (after? digitsThen?)

/-- What follows a lead is what was put behind it. -/
theorem after?_lead (lead rest : List Char) : after? lead (lead ++ rest) = some rest :=
  Text.after?_eq_some_iff.mpr rfl

/-! ## Names -/

/-- A text that is one field: it goes on up to its newline. -/
def IsField (characters : List Char) : Prop := '\t' ∉ characters ∧ '\n' ∉ characters

instance (characters : List Char) : Decidable (IsField characters) :=
  inferInstanceAs (Decidable (_ ∧ _))

theorem IsField.cons {character : Char} {characters : List Char} (tab : character ≠ '\t')
    (newline : character ≠ '\n') (field : IsField characters) :
    IsField (character :: characters) := by
  simp only [IsField, List.mem_cons, not_or]
  exact ⟨⟨tab.symm, field.1⟩, newline.symm, field.2⟩

theorem IsField.append {first second : List Char} (one : IsField first) (two : IsField second) :
    IsField (first ++ second) := by
  simp only [IsField, List.mem_append, not_or]
  exact ⟨⟨one.1, two.1⟩, one.2, two.2⟩

/-- A name holds no character that is not plain. -/
theorem Name.not_mem (name : Name) {character : Char} (special : isPlain character = false) :
    character ∉ name.characters := by
  intro member
  have plain : isPlain character = true := List.all_eq_true.mp name.plain character member
  rw [special] at plain
  cases plain

/-- A name is one field. -/
theorem Name.isField (name : Name) : IsField name.characters :=
  ⟨name.not_mem (by decide), name.not_mem (by decide)⟩

/-- A name holds no blank. -/
theorem Name.no_blank (name : Name) : ' ' ∉ name.characters :=
  name.not_mem (by decide)

/-- One field and a newline are read as the field. -/
theorem fieldText_line {characters : List Char} (field : IsField characters) :
    fieldText (characters ++ ['\n']) = characters := by
  unfold fieldText
  rw [List.takeWhile_append_of_pos]
  · simp
  · intro character member
    have tab : character ≠ '\t' := fun same => field.1 (same ▸ member)
    have newline : character ≠ '\n' := fun same => field.2 (same ▸ member)
    simp [tab, newline]

/-- The cuts of a text at its spaces are the ways to write it with one. -/
theorem mem_spaceCuts_iff {text left right : List Char} :
    (left, right) ∈ spaceCuts text ↔ text = left ++ ' ' :: right := by
  induction text generalizing left with
  | nil => simp [spaceCuts]
  | cons character rest inductionHypothesis =>
    have later : (∃ inner remaining, (inner, remaining) ∈ spaceCuts rest ∧
        character :: inner = left ∧ remaining = right) ↔
          character :: rest = left ++ ' ' :: right ∧ left ≠ [] := by
      constructor
      · rintro ⟨inner, remaining, inside, rfl, rfl⟩
        exact ⟨by rw [inductionHypothesis.mp inside, List.cons_append], by simp⟩
      · rintro ⟨same, nonempty⟩
        obtain ⟨first, inner, rfl⟩ := List.exists_cons_of_ne_nil nonempty
        obtain ⟨rfl, cut⟩ := List.cons.inj same
        exact ⟨inner, right, inductionHypothesis.mpr cut, rfl, rfl⟩
    rw [spaceCuts]
    by_cases space : character = ' '
    · subst space
      simp only [if_true, List.mem_cons, List.mem_map, Prod.exists, Prod.mk.injEq, later]
      constructor
      · rintro (⟨rfl, rfl⟩ | ⟨same, -⟩)
        · rfl
        · exact same
      · intro same
        cases left with
        | nil => exact .inl ⟨rfl, (List.cons.inj same).2.symm⟩
        | cons first inner => exact .inr ⟨same, by simp⟩
    · simp only [space, if_false, List.mem_map, Prod.exists, Prod.mk.injEq, later]
      constructor
      · exact fun cut => cut.1
      · intro same
        refine ⟨same, ?_⟩
        rintro rfl
        exact space (List.cons.inj same).1

/-- A later cut of a text leaves a shorter rest. -/
theorem spaceCuts_shrink (text : List Char) :
    (spaceCuts text).Pairwise fun earlier later => later.2.length < earlier.2.length := by
  induction text with
  | nil => exact List.Pairwise.nil
  | cons character rest inductionHypothesis =>
    have later : ((spaceCuts rest).map fun cut => (character :: cut.1, cut.2)).Pairwise
        fun earlier later => later.2.length < earlier.2.length :=
      List.pairwise_map.mpr inductionHypothesis
    have shorter : ∀ cut ∈ (spaceCuts rest).map fun cut => (character :: cut.1, cut.2),
        cut.2.length < rest.length := by
      intro cut member
      obtain ⟨⟨left, right⟩, inside, rfl⟩ := List.mem_map.mp member
      have length := congrArg List.length (mem_spaceCuts_iff.mp inside)
      rw [List.length_append, List.length_cons] at length
      show right.length < rest.length
      omega
    rw [spaceCuts]
    by_cases space : character = ' '
    · rw [if_pos space]
      exact List.pairwise_cons.mpr ⟨shorter, later⟩
    · rw [if_neg space]
      exact later

/-- Of the cuts with a property, the last one is found: no other leaves a shorter rest. -/
theorem find?_lastCut {text : List Char} {wanted : List Char × List Char → Bool}
    {left right : List Char} (found : (spaceCuts text).reverse.find? wanted = some (left, right)) :
    text = left ++ ' ' :: right ∧ wanted (left, right) = true ∧
      ∀ front back, text = front ++ ' ' :: back → wanted (front, back) = true →
        right.length ≤ back.length := by
  obtain ⟨holds, later, earlier, split, passed⟩ := List.find?_eq_some_iff_append.mp found
  refine ⟨mem_spaceCuts_iff.mp (List.mem_reverse.mp (List.mem_of_find?_eq_some found)), holds, ?_⟩
  intro front back same other
  have member : (front, back) ∈ (spaceCuts text).reverse :=
    List.mem_reverse.mpr (mem_spaceCuts_iff.mpr same)
  have grows := List.pairwise_reverse.mpr (spaceCuts_shrink text)
  rw [split] at member grows
  rcases List.mem_append.mp member with inLater | inEarlier
  · have failed := passed _ inLater
    rw [other] at failed
    cases failed
  · rcases List.mem_cons.mp inEarlier with equal | behind
    · exact Nat.le_of_eq (congrArg List.length (Prod.mk.inj equal).2.symm)
    · have pairs := (List.pairwise_append.mp grows).2.1
      exact Nat.le_of_lt ((List.pairwise_cons.mp pairs).1 _ behind)

/-- A name is on a side if it goes on behind the letter and the slash, with a quote in front or
    without. -/
theorem onSide_iff {side : Char} (letter : side ≠ '"') {name : List Char} :
    onSide side name = true ↔
      ∃ next rest,
        name = side :: '/' :: next :: rest ∨ name = '"' :: side :: '/' :: next :: rest := by
  constructor
  · intro named
    unfold onSide at named
    split at named
    · obtain rfl := of_decide_eq_true named
      exact ⟨_, _, .inr rfl⟩
    · obtain rfl := of_decide_eq_true named
      exact ⟨_, _, .inl rfl⟩
    · cases named
  · rintro ⟨next, rest, rfl | rfl⟩
    · unfold onSide
      split
      · next same => exact absurd (List.cons.inj same).1 letter
      · next same => simp [(List.cons.inj same).1]
      · next unmatched => exact absurd rfl (unmatched side next rest)
    · simp [onSide]

/-- A name is on its side whatever stands behind it. -/
theorem onSide_append {side : Char} (letter : side ≠ '"') {name : List Char}
    (named : onSide side name = true) (rest : List Char) : onSide side (name ++ rest) = true := by
  obtain ⟨next, others, shape⟩ := (onSide_iff letter).mp named
  refine (onSide_iff letter).mpr ⟨next, others ++ rest, ?_⟩
  rcases shape with rfl | rfl
  · exact .inl rfl
  · exact .inr rfl

/-- An opening line with a name of each side is cut at the last blank with a name of the new side
    behind it. This is the blank between the names or one in the new name. -/
theorem openingNames?_sides {first second : List Char} (firstField : IsField first)
    (secondField : IsField second) (old : onSide 'a' first = true)
    (new : onSide 'b' second = true) :
    ∃ left right, openingNames? (first ++ ' ' :: second ++ ['\n']) = some (left, right) ∧
      (left = first ∧ right = second ∨
        ∃ front, second = front ++ ' ' :: right ∧ onSide 'b' right = true) ∧
      ∀ front back, right = front ++ ' ' :: back → onSide 'b' back = false := by
  have field : IsField (first ++ ' ' :: second) :=
    firstField.append (secondField.cons (by decide) (by decide))
  have between : (first, second) ∈ (spaceCuts (first ++ ' ' :: second)).reverse :=
    List.mem_reverse.mpr (mem_spaceCuts_iff.mpr rfl)
  have some_cut : ((spaceCuts (first ++ ' ' :: second)).reverse.find? fun cut =>
      onSide 'a' cut.1 && onSide 'b' cut.2).isSome = true :=
    List.find?_isSome.mpr ⟨_, between, by simp [old, new]⟩
  obtain ⟨⟨left, right⟩, found⟩ := Option.isSome_iff_exists.mp some_cut
  obtain ⟨same, sides, last⟩ := find?_lastCut found
  obtain ⟨leftSide, rightSide⟩ := Bool.and_eq_true_iff.mp sides
  refine ⟨left, right, ?names, ?cut, ?nothingBehind⟩
  case names =>
    rw [openingNames?, fieldText_line field]
    exact congrArg (· <|> _) found
  case cut =>
    have short := last first second rfl (by simp [old, new])
    rcases List.append_eq_append_iff.mp same with ⟨more, leftIs, rest⟩ | ⟨more, firstIs, rest⟩
    · cases more with
      | nil => exact .inl ⟨by simpa using leftIs, (List.cons.inj rest).2.symm⟩
      | cons blank front => exact .inr ⟨front, (List.cons.inj rest).2, rightSide⟩
    · have length := congrArg List.length rest
      rw [List.length_append, List.length_cons, List.length_cons] at length
      obtain rfl : more = [] := List.length_eq_zero_iff.mp (by omega)
      exact .inl ⟨by simpa using firstIs.symm, (List.cons.inj rest).2⟩
  case nothingBehind =>
    intro front back inside
    rw [Bool.eq_false_iff]
    intro named
    have cut : first ++ ' ' :: second = (left ++ ' ' :: front) ++ ' ' :: back := by
      rw [same, inside]
      simp
    have short := last _ back cut (by simp [onSide_append (by decide) leftSide, named])
    rw [inside, List.length_append, List.length_cons] at short
    omega

/-- A name with its side in front is a name of that side. -/
theorem onSide_name {side : Char} (name : Name) (letter : side ≠ '"') :
    onSide side (side :: '/' :: name.characters) = true := by
  obtain ⟨first, others, same⟩ := List.exists_cons_of_ne_nil name.nonempty
  rw [onSide_iff letter]
  exact ⟨first, others, .inl (by rw [same])⟩

/-- The two names of an opening line are found. -/
theorem openingNames?_pair (old new : Name) :
    openingNames? (('a' :: '/' :: old.characters) ++ ' ' :: ('b' :: '/' :: new.characters) ++
        ['\n']) =
      some ('a' :: '/' :: old.characters, 'b' :: '/' :: new.characters) := by
  have oldField : IsField ('a' :: '/' :: old.characters) :=
    (old.isField.cons (by decide) (by decide)).cons (by decide) (by decide)
  have newField : IsField ('b' :: '/' :: new.characters) :=
    (new.isField.cons (by decide) (by decide)).cons (by decide) (by decide)
  have newUnbroken : ' ' ∉ 'b' :: '/' :: new.characters := by simp [new.no_blank]
  obtain ⟨left, right, names, cut, -⟩ := openingNames?_sides oldField newField
    (onSide_name old (by decide)) (onSide_name new (by decide))
  rcases cut with ⟨rfl, rfl⟩ | ⟨front, same, -⟩
  · exact names
  · exact absurd (same ▸ by simp) newUnbroken

/-! ## Rows -/

/-- The opening line gives both names. -/
theorem ofLine_opening (old new : Name) :
    Row.ofLine ("diff --git ".toList ++ (('a' :: '/' :: old.characters) ++
        ' ' :: ('b' :: '/' :: new.characters)) ++ ['\n']) =
      .opening ('a' :: '/' :: old.characters) ('b' :: '/' :: new.characters) := by
  rw [Row.ofLine, List.append_assoc, after?_lead, Option.bind_some, openingNames?_pair]

theorem ofLine_newFile (mode : Mode) :
    Row.ofLine ("new file mode ".toList ++ mode.written ++ ['\n']) = .newFile := by
  cases mode <;> rfl

theorem ofLine_deletedFile (mode : Mode) :
    Row.ofLine ("deleted file mode ".toList ++ mode.written ++ ['\n']) = .deletedFile := by
  cases mode <;> rfl

/-- A text begins as its lead does. -/
theorem head?_lead {lead : List Char} {first : Char} (leads : lead.head? = some first)
    (rest : List Char) : (lead ++ rest).head? = some first := by
  rw [List.head?_append, leads, Option.some_or]

/-- A lead with another first character is not there. -/
theorem after?_of_head {lead line : List Char} {expected first : Char}
    (leads : lead.head? = some expected) (starts : line.head? = some first)
    (differs : expected ≠ first) : after? lead line = none := by
  obtain ⟨leadRest, rfl⟩ := List.head?_eq_some_iff.mp leads
  obtain ⟨lineRest, rfl⟩ := List.head?_eq_some_iff.mp starts
  exact if_neg differs

/-- A line that begins with neither a `d` nor an `n` gives no notice and opens no file. -/
theorem no_notice {line : List Char} {first : Char} (starts : line.head? = some first)
    (opening : 'd' ≠ first) (notice : 'n' ≠ first) :
    after? "diff --git ".toList line = none ∧ after? "new file mode ".toList line = none ∧
      after? "deleted file mode ".toList line = none := by
  refine ⟨after?_of_head ?_ starts opening, after?_of_head ?_ starts notice,
    after?_of_head ?_ starts opening⟩ <;> rfl

/-- A line that does not begin with an at sign heads no block. -/
theorem no_header {line : List Char} {first : Char} (starts : line.head? = some first)
    (header : '@' ≠ first) : hunkHeader? line = none := by
  have leads : "@@ -".toList.head? = some '@' := rfl
  rw [hunkHeader?, after?_of_head leads starts header]
  rfl

/-- A line that does not begin with a `B` is no notice about a binary file. -/
theorem no_binary {line : List Char} {first : Char} (starts : line.head? = some first)
    (notice : 'B' ≠ first) : binaryNotice? line = none := by
  have several : "Binary files ".toList.head? = some 'B' := rfl
  have single : "Binary file ".toList.head? = some 'B' := rfl
  rw [binaryNotice?, after?_of_head several starts notice, after?_of_head single starts notice]
  rfl

/-- A line that begins like no other sort says nothing. -/
theorem ofLine_other {lead : List Char} (first : Char) (leads : lead.head? = some first)
    (other : first ∉ ['d', 'n', '-', '+', '@', '\\', 'B', 'G', '\n']) (rest : List Char) :
    Row.ofLine (lead ++ rest) = .other := by
  have starts := head?_lead leads rest
  simp only [List.mem_cons, not_or] at other
  obtain ⟨opening, notice, old, new, header, unterminated, binary, git, empty, -⟩ := other
  obtain ⟨unopened, notNew, notDeleted⟩ := no_notice starts (Ne.symm opening) (Ne.symm notice)
  have oldLead : "--- ".toList.head? = some '-' := rfl
  have newLead : "+++ ".toList.head? = some '+' := rfl
  have markerLead : "\\ No newline at end of file".toList.head? = some '\\' := rfl
  have gitLead : "GIT binary patch".toList.head? = some 'G' := rfl
  have filled : lead ++ rest ≠ ['\n'] := by
    intro same
    rw [same] at starts
    exact empty (Option.some.inj starts).symm
  simp only [Row.ofLine, unopened, notNew, notDeleted, no_header starts (Ne.symm header),
    no_binary starts (Ne.symm binary), after?_of_head oldLead starts (Ne.symm old),
    after?_of_head newLead starts (Ne.symm new), filled,
    after?_of_head markerLead starts (Ne.symm unterminated),
    after?_of_head gitLead starts (Ne.symm git), Option.bind_none, Option.map_none,
    Option.getD_none, Option.isSome_none, Bool.false_eq_true, if_false]

/-- What stands behind three minus signs is read as the old name. -/
theorem ofLine_sourceText (text : List Char) :
    Row.ofLine ("--- ".toList ++ text) = .source (fieldText text) := by
  have oldLead : "--- ".toList.head? = some '-' := rfl
  have starts := head?_lead oldLead text
  obtain ⟨unopened, notNew, notDeleted⟩ := no_notice starts (by decide) (by decide)
  simp only [Row.ofLine, unopened, notNew, notDeleted, after?_lead, Option.bind_none,
    Option.map_none, Option.getD_none, Bool.false_eq_true, if_false]

/-- What stands behind three plus signs is read as the new name. -/
theorem ofLine_targetText (text : List Char) :
    Row.ofLine ("+++ ".toList ++ text) = .target (fieldText text) := by
  have oldLead : "--- ".toList.head? = some '-' := rfl
  have newLead : "+++ ".toList.head? = some '+' := rfl
  have starts := head?_lead newLead text
  obtain ⟨unopened, notNew, notDeleted⟩ := no_notice starts (by decide) (by decide)
  simp only [Row.ofLine, unopened, notNew, notDeleted, after?_lead,
    after?_of_head oldLead starts (by decide), Option.bind_none, Option.map_none,
    Option.getD_none, Bool.false_eq_true, if_false]

/-- The name on the old side. -/
theorem ofLine_source {name : List Char} (field : IsField name) :
    Row.ofLine ("--- ".toList ++ name ++ ['\n']) = .source name := by
  rw [List.append_assoc, ofLine_sourceText, fieldText_line field]

/-- The name on the new side. -/
theorem ofLine_target {name : List Char} (field : IsField name) :
    Row.ofLine ("+++ ".toList ++ name ++ ['\n']) = .target name := by
  rw [List.append_assoc, ofLine_targetText, fieldText_line field]

theorem ofLine_marker : Row.ofLine (marker ++ ['\n']) = .unterminated := rfl

/-! ## Headers of blocks -/

/-- The digits of a written number are taken off. -/
theorem digitsThen?_number (value : Nat) {next : Char} (rest : List Char)
    (ends : Text.isDigit next = false) :
    digitsThen? (number value ++ next :: rest) = some (number value, next :: rest) := by
  have digits : ∀ digit ∈ number value, Text.isDigit digit = true := fun digit member =>
    Text.isDigit_of_mem_toDigits member
  have taken : (number value ++ next :: rest).takeWhile Text.isDigit = number value := by
    rw [List.takeWhile_append_of_pos digits]
    simp [ends]
  have left : (number value ++ next :: rest).dropWhile Text.isDigit = next :: rest := by
    rw [List.dropWhile_append_of_pos digits]
    simp [ends]
  have nonempty : (number value).isEmpty = false := by
    simp [number]
  simp [digitsThen?, taken, left, nonempty]

/-- The digits of a length, unless it is left out. -/
def writtenLength (length : Nat) : Option (List Char) :=
  if length = 1 then none else some (number length)

/-- A start and a length are taken off. -/
theorem extentThen?_extent (start length : Nat) (rest : List Char) :
    extentThen? (Block.extent start length ++ ' ' :: rest) =
      some (number start, writtenLength length, ' ' :: rest) := by
  have blank : Text.isDigit ' ' = false := by decide
  have comma : Text.isDigit ',' = false := by decide
  unfold Block.extent writtenLength
  by_cases single : length = 1
  · simp only [single, if_true, List.append_nil, extentThen?, digitsThen?_number start rest blank]
    simp [after?]
  · simp only [single, if_false, extentThen?, List.append_assoc, List.cons_append,
      digitsThen?_number start _ comma]
    simp [after?, digitsThen?_number length rest blank]

/-- A text without a newline goes on up to its newline. -/
theorem takeWhile_line {characters : List Char} (single : '\n' ∉ characters) :
    (characters ++ ['\n']).takeWhile (fun character => decide (character ≠ '\n')) =
      characters := by
  rw [List.takeWhile_append_of_pos]
  · simp
  · intro character member
    have other : character ≠ '\n' := fun same => single (same ▸ member)
    simpa using other

/-- The header of a block gives its numbers and its heading. -/
theorem hunkHeader?_header (block : Block) :
    hunkHeader? (block.header ++ ['\n']) =
      some (.hunk (number block.oldStart) (writtenLength block.oldLines)
        (number block.newStart) (writtenLength block.newLines) block.heading.characters) := by
  have single := takeWhile_line block.heading.single
  have oldRest (rest : List Char) : " +".toList ++ rest = ' ' :: '+' :: rest := rfl
  have newRest (rest : List Char) : " @@".toList ++ rest = ' ' :: '@' :: '@' :: rest := rfl
  have afterOld (rest : List Char) : after? " +".toList (' ' :: '+' :: rest) = some rest := rfl
  have afterNew (rest : List Char) : after? " @@".toList (' ' :: '@' :: '@' :: rest) = some rest :=
    rfl
  unfold hunkHeader? Block.header
  simp only [List.append_assoc, after?_lead, oldRest, newRest, List.cons_append,
    extentThen?_extent, afterOld, afterNew, bind, Option.bind_some, pure]
  by_cases empty : block.heading.characters = []
  · simp [empty, after?]
  · simp only [empty, if_false, List.cons_append, after?, if_true, Option.getD_some, single]

/-- A line that can be read as the header of a hunk is one. -/
theorem ofLine_hunkHeader {line : List Char} {row : Row} (read : hunkHeader? line = some row) :
    Row.ofLine line = row := by
  have headerLead : "@@ -".toList.head? = some '@' := rfl
  have oldLead : "--- ".toList.head? = some '-' := rfl
  have newLead : "+++ ".toList.head? = some '+' := rfl
  have starts : line.head? = some '@' := by
    cases start : after? "@@ -".toList line with
    | none =>
      rw [hunkHeader?, start] at read
      cases read
    | some rest =>
      rw [Text.after?_eq_some_iff.mp start]
      exact head?_lead headerLead rest
  obtain ⟨unopened, notNew, notDeleted⟩ := no_notice starts (by decide) (by decide)
  simp only [Row.ofLine, unopened, notNew, notDeleted, read,
    after?_of_head oldLead starts (by decide), after?_of_head newLead starts (by decide),
    Option.bind_none, Option.map_none, Option.getD_none, Bool.false_eq_true, if_false]

/-- The row of a block's header. -/
theorem ofLine_header (block : Block) :
    Row.ofLine (block.header ++ ['\n']) =
      .hunk (number block.oldStart) (writtenLength block.oldLines) (number block.newStart)
        (writtenLength block.newLines) block.heading.characters :=
  ofLine_hunkHeader (hunkHeader?_header block)

/-- A number that is not too long is read as itself. -/
theorem headerNumber_number {value : Nat} (short : (number value).length ≤ Text.maxDigits) :
    headerNumber (number value) = .ok value := by
  rw [headerNumber, number, Text.readDigits_toDigits short]
  rfl

/-- A length that is left out is one. -/
theorem headerLength_writtenLength {length : Nat}
    (short : (number length).length ≤ Text.maxDigits) :
    ((writtenLength length).map headerNumber).getD (.ok 1) = .ok length := by
  unfold writtenLength
  split
  · rename_i single
    simp [single]
  · simp [headerNumber_number short]

/-- The hunk that a block is, with the given lines of its body. -/
def Block.hunk (block : Block) (body : List BodyLine) : Hunk where
  oldStart := block.oldStart
  oldLines := block.oldLines
  newStart := block.newStart
  newLines := block.newLines
  heading := block.heading.characters
  body := body

/-- The header of a readable block opens its hunk. -/
theorem openHunk_header {block : Block} (readable : block.Readable) :
    openHunk (number block.oldStart) (writtenLength block.oldLines) (number block.newStart)
      (writtenLength block.newLines) block.heading.characters = .ok (block.hunk []) := by
  simp only [openHunk, headerNumber_number readable.oldStart,
    headerLength_writtenLength readable.oldLines, headerNumber_number readable.newStart,
    headerLength_writtenLength readable.newLines, bind, Except.bind, pure, Except.pure]
  rfl

end LintReview.Diff.Written
