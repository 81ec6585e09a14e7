import LintReview.Proofs.Pattern.Language
import LintReview.Proofs.Text.LetterCase

/-!
# Paths with an extension

The pattern of some extensions allows any characters of one line, a dot, and one of the extensions
in any case of its letters. Which way of matching is tried first plays no part, and neither does an
extension with which another one begins: an English path is described exactly if it is of one line
and ends, in lower case, in a dot and an extension (`mem_endingIn_english`). The dot is then the
last one of the path, so what stands in front of it does not matter (`endsIn_behind_dot_iff`).
-/

namespace LintReview.Pattern

open scoped Computability

/-- The path has no newline and ends, in either case of its letters, in a dot and one of the
    extensions. -/
def EndsIn (extensions : List String) (path : List Char) : Prop :=
  '\n' ∉ path ∧ ∃ extension ∈ extensions, '.' :: extension.toList <:+ path.map Char.toLower

instance (extensions : List String) (path : List Char) : Decidable (EndsIn extensions path) :=
  inferInstanceAs (Decidable (_ ∧ _))

/-! ## Sets -/

/-- The set of a character in all its forms. -/
def letter (character : Char) : CharacterSet := ⟨false, [.single character.toNat], .full, false⟩

/-- The set of the characters that do not end a line. -/
def withinLine : CharacterSet := ⟨true, [.single '\n'.toNat], .full, false⟩

/-- The set of a character holds those of which it is a form. -/
theorem contains_letter_iff {expected character : Char} :
    (letter expected).contains character = true ↔ expected ∈ Text.letterVariants character := by
  have same (form : Char) :
      expected.toNat ≤ form.toNat ∧ form.toNat ≤ expected.toNat ↔ expected = form := by
    rw [← Nat.le_antisymm_iff, Char.toNat_inj]
  simp [letter, CharacterSet.contains, CharacterSet.itemHolds, Item.single, Folding.forms, same]

/-- Of the English characters it holds those with the same lower-case form. -/
theorem contains_letter_english {expected character : Char}
    (expectedEnglish : expected.toNat < 128) (english : character.toNat < 128) :
    (letter expected).contains character = true ↔ expected.toLower = character.toLower := by
  rw [contains_letter_iff, Text.mem_letterVariants_iff english expectedEnglish]

/-- Of the English characters only a newline ends a line. -/
theorem contains_withinLine_english {character : Char} (english : character.toNat < 128) :
    withinLine.contains character = true ↔ character ≠ '\n' := by
  have others : withinLine.contains character = !(letter '\n').contains character := by
    simp [withinLine, letter, CharacterSet.contains, CharacterSet.itemHolds]
  have newline : '\n'.toLower = character.toLower ↔ character = '\n' :=
    Text.forall_english (fun character => '\n'.toLower = character.toLower ↔ character = '\n')
      (by decide +kernel) english
  rw [others, Bool.not_eq_true', Bool.eq_false_iff, ne_eq,
    contains_letter_english (by decide) english, newline]

/-! ## The pattern -/

/-- The pattern of the extensions. -/
def anyOf (extensions : List String) : Node :=
  .ofChoices (extensions.map fun extension => .ofSequence ((extension.toList.map letter).map .one))

/-- The pattern of the paths of one line that end in a dot and one of the extensions. -/
def endingIn (extensions : List String) : Node :=
  .sequence (.repetition .most 0 none (.one withinLine))
    (.sequence (.one (letter '.')) (.group (some 1) (anyOf extensions)))

/-- The characters are, one after the other, forms of those of an extension. -/
def Spells (characters extension : List Char) : Prop :=
  List.Forall₂ (fun expected character => (letter expected).contains character = true) extension
    characters

variable {extensions : List String} {path : List Char}

/-- The pattern of the extensions describes their spellings. -/
theorem mem_anyOf_iff {text : List Char} :
    text ∈ (anyOf extensions).language ↔
      ∃ extension ∈ extensions, Spells text extension.toList := by
  simp [anyOf, mem_ofChoices_iff, mem_ofSequence_iff, Spells, -List.map_map]

/-- The pattern of paths describes the texts that are put together from a front of one line, a dot,
    and a spelling of an extension. -/
theorem mem_endingIn_iff :
    path ∈ (endingIn extensions).language ↔
      ∃ front dot behind, path = front ++ dot :: behind ∧
        (∀ character ∈ front, withinLine.contains character = true) ∧
        (letter '.').contains dot = true ∧
        ∃ extension ∈ extensions, Spells behind extension.toList := by
  have parts : (endingIn extensions).language =
      withinLine.texts∗ * ((letter '.').texts * (anyOf extensions).language) := by
    change withinLine.texts ^ 0 * withinLine.texts∗ * _ = _
    rw [pow_zero, one_mul]
    rfl
  rw [parts, Language.mem_mul]
  constructor
  · rintro ⟨front, line, back, later, rfl⟩
    obtain ⟨dot, behind, rfl, isDot, spelled⟩ := mem_texts_mul_iff.mp later
    exact ⟨front, dot, behind, rfl, mem_kstar_texts_iff.mp line, isDot, mem_anyOf_iff.mp spelled⟩
  · rintro ⟨front, dot, behind, rfl, line, isDot, spelled⟩
    have back := mem_texts_mul_iff.mpr ⟨dot, behind, rfl, isDot, mem_anyOf_iff.mpr spelled⟩
    exact ⟨front, mem_kstar_texts_iff.mpr line, dot :: behind, back, rfl⟩

/-! ## English paths -/

/-- The extension is an English text without capitals, dots and newlines. -/
structure IsPlain (extension : List Char) : Prop where
  english : Text.IsEnglish extension
  small : extension.map Char.toLower = extension
  dotless : '.' ∉ extension
  line : '\n' ∉ extension

instance (extension : List Char) : Decidable (IsPlain extension) :=
  decidable_of_iff
    (Text.IsEnglish extension ∧ extension.map Char.toLower = extension ∧
      '.' ∉ extension ∧ '\n' ∉ extension)
    ⟨fun ⟨english, small, dotless, line⟩ => ⟨english, small, dotless, line⟩,
      fun ⟨english, small, dotless, line⟩ => ⟨english, small, dotless, line⟩⟩

/-- English characters spell an extension exactly if the two are the same in lower case. -/
theorem spells_iff {characters extension : List Char} (english : Text.IsEnglish characters)
    (expectedEnglish : Text.IsEnglish extension) :
    Spells characters extension ↔
      characters.map Char.toLower = extension.map Char.toLower := by
  unfold Spells
  induction extension generalizing characters with
  | nil => cases characters <;> simp
  | cons expected rest inductionHypothesis =>
    cases characters with
    | nil => simp
    | cons character others =>
      obtain ⟨first, later⟩ := List.forall_mem_cons.mp english
      obtain ⟨expectedFirst, expectedLater⟩ := List.forall_mem_cons.mp expectedEnglish
      rw [List.forall₂_cons, contains_letter_english expectedFirst first,
        inductionHypothesis later expectedLater, List.map_cons, List.map_cons, List.cons.injEq,
        eq_comm]

/-- English characters are a dot and a spelling of a plain extension exactly if, in lower case, they
    are the dot and the extension. -/
theorem lowered_ending_iff {dot : Char} {behind extension : List Char}
    (english : Text.IsEnglish (dot :: behind)) (plain : IsPlain extension) :
    (letter '.').contains dot = true ∧ Spells behind extension ↔
      (dot :: behind).map Char.toLower = '.' :: extension := by
  obtain ⟨englishDot, englishBehind⟩ := List.forall_mem_cons.mp english
  rw [contains_letter_english (by decide) englishDot, spells_iff englishBehind plain.english,
    plain.small, List.map_cons, List.cons.injEq, eq_comm (a := dot.toLower)]
  exact Iff.rfl

/-- An English path is described exactly if it ends in one of the extensions. -/
theorem mem_endingIn_english (plain : ∀ extension ∈ extensions, IsPlain extension.toList)
    (english : Text.IsEnglish path) :
    path ∈ (endingIn extensions).language ↔ EndsIn extensions path := by
  rw [mem_endingIn_iff, EndsIn]
  constructor
  · rintro ⟨front, dot, behind, rfl, line, isDot, extension, listed, spelled⟩
    obtain ⟨englishFront, englishBack⟩ := List.forall_mem_append.mp english
    have known := plain extension listed
    have lowered := (lowered_ending_iff englishBack known).mp ⟨isDot, spelled⟩
    refine ⟨?_, extension, listed, front.map Char.toLower, ?_⟩
    · intro newline
      rcases List.mem_append.mp newline with inFront | inBack
      · exact (contains_withinLine_english (englishFront _ inFront)).mp (line _ inFront) rfl
      · -- the newline would be left in the lower-case form, which is the dot and the extension
        have inLowered : '\n' ∈ (dot :: behind).map Char.toLower :=
          List.mem_map.mpr ⟨'\n', inBack, rfl⟩
        rw [lowered] at inLowered
        exact known.line ((List.mem_cons.mp inLowered).resolve_left (by decide))
    · rw [List.map_append, lowered]
  · rintro ⟨line, extension, listed, lowered, ending⟩
    obtain ⟨front, back, rfl, rfl, loweredBack⟩ := List.map_eq_append_iff.mp ending.symm
    obtain ⟨dot, behind, rfl, -, -⟩ := List.map_eq_cons_iff.mp loweredBack
    obtain ⟨englishFront, englishBack⟩ := List.forall_mem_append.mp english
    obtain ⟨isDot, spelled⟩ :=
      (lowered_ending_iff englishBack (plain extension listed)).mpr loweredBack
    refine ⟨front, dot, behind, rfl, ?_, isDot, extension, listed, spelled⟩
    intro character inside
    rw [contains_withinLine_english (englishFront character inside)]
    rintro rfl
    exact line (List.mem_append_left _ inside)

/-! ## In front of a dot -/

/-- Where a dot and an extension without dots end a text with a dot, they stand at that dot or
    behind it. -/
theorem suffix_behind_dot_iff {extension front behind : List Char} (dotless : '.' ∉ extension) :
    '.' :: extension <:+ front ++ '.' :: behind ↔ '.' :: extension <:+ '.' :: behind := by
  constructor
  · intro ending
    rcases List.suffix_or_suffix_of_suffix ending (List.suffix_append _ _) with within | beyond
    · exact within
    · rcases List.suffix_cons_iff.mp beyond with same | inside
      · rw [same]
      · exact absurd (inside.mem List.mem_cons_self) dotless
  · exact fun ending => ending.trans (List.suffix_append _ _)

/-- What stands in front of a dot does not matter, if it is of one line. -/
theorem endsIn_behind_dot_iff (plain : ∀ extension ∈ extensions, IsPlain extension.toList)
    {front behind : List Char} (line : '\n' ∉ front) :
    EndsIn extensions (front ++ '.' :: behind) ↔ EndsIn extensions ('.' :: behind) := by
  have newline : '\n' ∉ front ++ '.' :: behind ↔ '\n' ∉ '.' :: behind := by simp [line]
  have dot : '.'.toLower = '.' := rfl
  unfold EndsIn
  rw [newline, List.map_append, List.map_cons, dot]
  refine and_congr_right fun _ => exists_congr fun extension => and_congr_right fun listed => ?_
  exact suffix_behind_dot_iff (plain extension listed).dotless

end LintReview.Pattern
