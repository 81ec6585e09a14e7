import LintReview.Text.Casing

/-!
# The cases of English letters

The characters below 128 are those of English texts. A letter among them has two cases there, and
any other character only itself, so two of them are the same letter exactly if their lower-case
forms are the same (`mem_letterVariants_iff`). Forms from 128 on, which some of the letters have
too, do not come into this: the Kelvin sign, for instance, is a form of `k`.
-/

namespace LintReview.Text

/-- All characters of the text are below 128. -/
def IsEnglish (text : List Char) : Prop := ∀ character ∈ text, character.toNat < 128

instance (text : List Char) : Decidable (IsEnglish text) := List.decidableBAll _ text

/-- What holds of the first 128 characters by their numbers holds of each of them. -/
theorem forall_english (holds : Char → Prop) (all : ∀ code < 128, holds (Char.ofNat code))
    {character : Char} (english : character.toNat < 128) : holds character := by
  simpa only [Char.ofNat_toNat] using all character.toNat english

/-- The lower-case form of an English character is that of its alphabet. -/
theorem lower_english {character : Char} (english : character.toNat < 128) :
    lower character = character.toLower :=
  forall_english (fun character => lower character = character.toLower) (by decide +kernel) english

/-- The lower-case form of an English character is an English one, and its own. -/
theorem toLower_english {character : Char} (english : character.toNat < 128) :
    character.toLower.toNat < 128 ∧ character.toLower.toLower = character.toLower :=
  forall_english (fun character => character.toLower.toNat < 128 ∧
    character.toLower.toLower = character.toLower) (by decide +kernel) english

/-- An English character is a form of its lower-case form. -/
theorem mem_caseVariants_toLower {character : Char} (english : character.toNat < 128) :
    character ∈ caseVariants character.toLower :=
  forall_english (fun character => character ∈ caseVariants character.toLower) (by decide +kernel)
    english

/-- The only row of capitals below 128 is that of the English letters. -/
theorem lowerRows_english : ∀ row ∈ lowerRows, row = (0x41, 0x5a, 1, 0x61) ∨
    128 ≤ row.1 ∧ row.1 ≤ row.2.1 ∧
      (row.2.1 < 0xd800 ∨ 0xdfff < row.1 ∧ row.2.1 < 0x110000) := by
  decide +kernel

/-- Only English characters have a form below 128, and it has the same lower-case form. -/
theorem english_of_mem_caseVariants {small form : Char} (member : form ∈ caseVariants small)
    (english : form.toNat < 128) : small.toNat < 128 ∧ form.toLower = small.toLower := by
  rw [caseVariants, List.mem_cons, List.mem_filterMap] at member
  rcases member with rfl | ⟨⟨first, last, step, target⟩, listed, given⟩
  · exact ⟨english, rfl⟩
  · simp only [Option.ite_none_right_eq_some, Bool.and_eq_true, decide_eq_true_eq,
      Option.some.injEq] at given
    obtain ⟨⟨⟨above, below⟩, -⟩, rfl⟩ := given
    rcases lowerRows_english _ listed with same | ⟨high, ordered, valid⟩
    · obtain ⟨rfl, rfl, -, rfl⟩ : first = 0x41 ∧ last = 0x5a ∧ step = 1 ∧ target = 0x61 := by
        simpa using same
      have narrow : small.toNat < 128 := by omega
      have capital : ∀ code < 128, 0x61 ≤ code → code ≤ 0x7a →
          (Char.ofNat (0x41 + (code - 0x61))).toLower = (Char.ofNat code).toLower := by
        decide +kernel
      have sameLetter := capital small.toNat narrow above below
      rw [Char.ofNat_toNat] at sameLetter
      exact ⟨narrow, sameLetter⟩
    · have scalar : (first + (small.toNat - target)).isValidChar := by
        unfold Nat.isValidChar
        dsimp only at ordered valid
        omega
      rw [Char.ofNat, dif_pos scalar] at english
      change first + (small.toNat - target) < 128 at english
      dsimp only at high
      omega

/-- The further forms of an English character are not below 128. -/
theorem alternates_high {character other : Char} (english : character.toNat < 128)
    (member : other ∈ alternates character) : 128 ≤ other.toNat := by
  have entries : ∀ entry ∈ alternateForms, entry.1 < 128 →
      ∀ code ∈ entry.2, 128 ≤ (Char.ofNat code).toNat := by
    decide +kernel
  unfold alternates at member
  split at member
  · next key others found =>
    obtain ⟨code, listed, rfl⟩ := List.mem_map.mp member
    have same : key = character.toNat := by simpa using List.find?_some found
    exact entries _ (List.mem_of_find?_eq_some found) (same ▸ english) code listed
  · cases member

/-- Two English characters are the same letter exactly if their lower-case forms are the same. -/
theorem mem_letterVariants_iff {character form : Char} (english : character.toNat < 128)
    (formEnglish : form.toNat < 128) :
    form ∈ letterVariants character ↔ form.toLower = character.toLower := by
  rw [letterVariants, lower_english english, List.mem_flatMap]
  constructor
  · rintro ⟨small, listed, member⟩
    obtain ⟨narrow, same⟩ := english_of_mem_caseVariants member formEnglish
    obtain ⟨lowered, again⟩ := toLower_english english
    rcases List.mem_cons.mp listed with rfl | further
    · rw [same, again]
    · exact absurd narrow (Nat.not_lt.mpr (alternates_high lowered further))
  · intro same
    exact ⟨character.toLower, List.mem_cons_self, same ▸ mem_caseVariants_toLower formEnglish⟩

end LintReview.Text
