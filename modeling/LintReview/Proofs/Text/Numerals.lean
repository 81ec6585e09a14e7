import LintReview.Text.Numeral

/-!
# Written numbers

A natural number is written with the digits `0` to `9`, and an integer below nought with a minus
sign in front of them. Reading them gives the number back, unless there are more than are read.
-/

namespace LintReview.Text

/-- Where the ten characters `0` to `9` stand. -/
theorem toNat_of_ascii {character : Char} (digit : character.isDigit = true) :
    48 ≤ character.toNat ∧ character.toNat < 58 := by
  simp only [Char.isDigit, Bool.and_eq_true, decide_eq_true_eq, UInt32.le_iff_toNat_le] at digit
  exact ⟨digit.1, Nat.lt_succ_of_le digit.2⟩

/-- The value of one of the ten characters `0` to `9` is its distance from `0`. -/
theorem digitValue?_of_ascii {character : Char} (digit : character.isDigit = true) :
    digitValue? character = some (character.toNat - 48) := by
  obtain ⟨above, below⟩ := toNat_of_ascii digit
  have first : digitZeros.find? (fun start =>
      start ≤ character.toNat && character.toNat < start + 10) = some 48 := by
    simp [digitZeros, above, below]
  rw [digitValue?, first, Option.map_some]

/-- The ten characters `0` to `9` are digits. -/
theorem isDigit_of_ascii {character : Char} (digit : character.isDigit = true) :
    isDigit character = true := by
  rw [isDigit, digitValue?_of_ascii digit, Option.isSome_some]

/-- A written number consists of digits. -/
theorem isDigit_of_mem_toDigits {value : Nat} {character : Char}
    (member : character ∈ Nat.toDigits 10 value) : isDigit character = true :=
  isDigit_of_ascii (Nat.isDigit_of_mem_toDigits (by decide) (by decide) member)

/-- The value of digits `0` to `9` is what they denote in base ten. -/
theorem digitsValue_ascii {digits : List Char}
    (decimal : ∀ digit ∈ digits, digit.isDigit = true) :
    digitsValue digits = Nat.ofDigitChars 10 digits 0 := by
  have sameFold (digits : List Char) (total : Nat)
      (decimal : ∀ digit ∈ digits, digit.isDigit = true) :
      digits.foldl (fun total digit => total * 10 + (digitValue? digit).getD 0) total =
        Nat.ofDigitChars 10 digits total := by
    induction digits generalizing total with
    | nil => rfl
    | cons digit rest inductionHypothesis =>
      have first := digitValue?_of_ascii (decimal digit List.mem_cons_self)
      have others := fun other member => decimal other (List.mem_cons_of_mem digit member)
      rw [List.foldl_cons, inductionHypothesis _ others, first, Option.getD_some]
      simp [Nat.ofDigitChars, Nat.mul_comm]
  exact sameFold digits 0 decimal

/-- The value of a written number is the number. -/
theorem digitsValue_toDigits (value : Nat) : digitsValue (Nat.toDigits 10 value) = value := by
  rw [digitsValue_ascii fun digit member =>
    Nat.isDigit_of_mem_toDigits (by decide) (by decide) member]
  exact Nat.ofDigitChars_ten_toDigits

/-- A written number that is not too long is read as itself. -/
theorem readDigits_toDigits {value : Nat} (short : (Nat.toDigits 10 value).length ≤ maxDigits) :
    readDigits (Nat.toDigits 10 value) = .ok value := by
  rw [readDigits, if_neg (Nat.not_lt_of_le short), digitsValue_toDigits]

/-- One of the ten characters `0` to `9` is no blank in front of a numeral. -/
theorem not_numeralBlank_of_ascii {character : Char} (digit : character.isDigit = true) :
    isNumeralBlank character = false := by
  obtain ⟨above, below⟩ := toNat_of_ascii digit
  have solid : isBlank character = false := by
    simp only [isBlank, Bool.or_eq_false_iff, Bool.and_eq_false_iff, decide_eq_false_iff_not,
      beq_eq_false_iff_ne]
    omega
  rw [isNumeralBlank, solid, Bool.false_and]

/-- Digits are all taken from the front. -/
theorem leadingDigits_digits {digits : List Char}
    (decimal : ∀ digit ∈ digits, isDigit digit = true) (afterDigit : Bool) :
    leadingDigits afterDigit digits = some (digits, []) := by
  induction digits generalizing afterDigit with
  | nil => rfl
  | cons digit rest inductionHypothesis =>
    obtain ⟨first, others⟩ := List.forall_mem_cons.mp decimal
    rw [leadingDigits, if_pos first, inductionHypothesis others]
    · rfl
    · rintro next more rfl
      exact absurd first (by decide)

/-- A written number that is not too long is read as an integer, with or without a minus sign in
    front of it. -/
theorem readInteger_digits {value : Nat} (short : (Nat.toDigits 10 value).length ≤ maxDigits) :
    readInteger (Nat.toDigits 10 value) = .ok value ∧
      readInteger ('-' :: Nat.toDigits 10 value) = .ok (-value) := by
  have ascii : ∀ digit ∈ Nat.toDigits 10 value, digit.isDigit = true := fun digit member =>
    Nat.isDigit_of_mem_toDigits (by decide) (by decide) member
  have decimal : ∀ digit ∈ Nat.toDigits 10 value, isDigit digit = true :=
    fun _ => isDigit_of_mem_toDigits
  have taken := leadingDigits_digits decimal false
  have read := readDigits_toDigits short
  obtain ⟨first, rest, same⟩ : ∃ first rest, Nat.toDigits 10 value = first :: rest :=
    List.exists_cons_of_ne_nil Nat.toDigits_ne_nil
  rw [same] at ascii taken read ⊢
  have digit := ascii first List.mem_cons_self
  have unlike {other : Char} (solid : other.isDigit = false) : first ≠ other := by
    rintro rfl
    rw [digit] at solid
    cases solid
  have kept : (first :: rest).dropWhile isNumeralBlank = first :: rest :=
    List.dropWhile_cons_of_neg (by simp [not_numeralBlank_of_ascii digit])
  have minus := unlike (by decide : Char.isDigit '-' = false)
  have plus := unlike (by decide : Char.isDigit '+' = false)
  constructor
  · simp [readInteger, kept, minus, plus, taken, read]
  · have sign : ('-' :: first :: rest).dropWhile isNumeralBlank = '-' :: first :: rest :=
      List.dropWhile_cons_of_neg (by decide)
    simp [readInteger, sign, taken, read]

/-- An integer is written with the digits of its size, behind a minus sign if it is below
    nought. -/
theorem toList_toString (value : Int) :
    (toString value).toList =
      (if value < 0 then ['-'] else []) ++ Nat.toDigits 10 value.natAbs := by
  cases value with
  | ofNat value => simp [toString, Int.repr]
  | negSucc value => simp [toString, Int.repr, Int.negSucc_lt_zero]

/-- A written integer that is not too long is read as itself. -/
theorem readInteger_toString {value : Int}
    (short : (Nat.toDigits 10 value.natAbs).length ≤ maxDigits) :
    readInteger (toString value).toList = .ok value := by
  obtain ⟨unsigned, signed⟩ := readInteger_digits short
  rw [toList_toString]
  by_cases negative : value < 0
  · rw [if_pos negative, List.singleton_append, signed]
    exact congrArg Except.ok (by omega)
  · rw [if_neg negative, List.nil_append, unsigned]
    exact congrArg Except.ok (by omega)

end LintReview.Text
