import LintReview.Setting
import Mathlib.Algebra.Field.Rat
import Mathlib.Algebra.Order.Ring.Rat
import Mathlib.Tactic.NormNum

/-!
# When settings are the same key

A table compares keys by value, across the kinds of numbers. What is compared is the value of a
key (`Setting.keyValue?`): a rational number, a text, a day, a time by the clock or in universal
time. Lists and tables have none. Two settings are the same key exactly if they have the same
value, so being the same key is symmetric and transitive, and a setting that is a key at all is
the same as itself.

The exponents of binary numbers are not brought to one form before they are compared; comparing
them means shifting one of the significands.
-/

namespace LintReview

/-! ## Binary numbers -/

namespace Number

/-- A size with a sign. -/
def signed (negative : Bool) (size : Nat) : ℚ := if negative then -size else size

/-- Sizes with signs are the same if the sizes are and, but for nought, the signs. -/
theorem signed_eq_iff (negative other : Bool) (size otherSize : Nat) :
    signed negative size = signed other otherSize ↔
      size = otherSize ∧ (size = 0 ∨ negative = other) := by
  have positive (first second : Nat) : (-first : ℚ) = second ↔ first = 0 ∧ second = 0 := by
    rw [neg_eq_iff_add_eq_zero]
    exact_mod_cast Nat.add_eq_zero_iff
  cases negative <;> cases other
  · simp [signed]
  · have turned : (size : ℚ) = -otherSize ↔ otherSize = 0 ∧ size = 0 := by
      rw [eq_comm, positive]
    simp only [signed, Bool.false_eq_true, if_false, if_true, turned, or_false]
    omega
  · simp only [signed, Bool.false_eq_true, if_false, if_true, positive, Bool.true_eq_false,
      or_false]
    omega
  · simp [signed]

/-- The quotient of two powers of two, of which one is no fraction. -/
theorem twoTo_quotient (exponent other : Int) :
    (2 : ℚ) ^ exponent * twoTo (other - exponent).toNat =
      2 ^ other * twoTo (exponent - other).toNat := by
  have two : (2 : ℚ) ≠ 0 := by norm_num
  have power (count : Nat) : (twoTo count : ℚ) = 2 ^ (count : Int) := by
    rw [twoTo, zpow_natCast]
    exact_mod_cast rfl
  rw [power, power, ← zpow_add₀ two, ← zpow_add₀ two]
  congr 1
  omega

theorem twoTo_ne_zero (exponent : Nat) : twoTo exponent ≠ 0 := pow_ne_zero exponent (by decide)

/-- A size that is shifted keeps its sign. -/
theorem signed_mul (negative : Bool) (size factor : Nat) :
    signed negative (size * factor) = signed negative size * factor := by
  cases negative <;> simp [signed]

/-- Numbers with a significand and an exponent are compared by shifting the significand of the
    one with the larger exponent. -/
theorem scaled_eq_iff (negative other : Bool) (significand otherSignificand : Nat)
    (exponent otherExponent : Int) :
    signed negative significand * 2 ^ exponent = signed other otherSignificand * 2 ^ otherExponent ↔
      significand * twoTo (exponent - otherExponent).toNat =
          otherSignificand * twoTo (otherExponent - exponent).toNat ∧
        (significand = 0 ∨ negative = other) := by
  have shift : (twoTo (otherExponent - exponent).toNat : ℚ) ≠ 0 := by
    exact_mod_cast twoTo_ne_zero _
  have unit : (2 : ℚ) ^ otherExponent ≠ 0 := zpow_ne_zero _ (by norm_num)
  calc signed negative significand * 2 ^ exponent =
        signed other otherSignificand * 2 ^ otherExponent
      ↔ signed negative significand * (2 ^ exponent * twoTo (otherExponent - exponent).toNat) =
          signed other otherSignificand *
            (2 ^ otherExponent * twoTo (otherExponent - exponent).toNat) := by
        rw [← mul_assoc, ← mul_assoc, mul_left_inj' shift]
    _ ↔ signed negative (significand * twoTo (exponent - otherExponent).toNat) =
          signed other (otherSignificand * twoTo (otherExponent - exponent).toNat) := by
        rw [twoTo_quotient, mul_left_comm, mul_left_comm (signed other _), mul_right_inj' unit,
          signed_mul, signed_mul]
    _ ↔ _ := by
        rw [signed_eq_iff, Nat.mul_eq_zero, or_iff_left (twoTo_ne_zero _)]

/-- What the value of a number is. -/
inductive Value where
  | rational (value : ℚ)
  | infinite (negative : Bool)
  | undefined

/-- The value of a binary number. -/
def Binary.value : Binary → Value
  | .nan => .undefined
  | .infinite negative => .infinite negative
  | .finite negative significand exponent => .rational (signed negative significand * 2 ^ exponent)

theorem Binary.sameValue_iff (first second : Binary) :
    first.sameValue second = true ↔ first.value = second.value := by
  cases first <;> cases second <;>
    simp only [sameValue, value, Bool.and_eq_true, Bool.or_eq_true, decide_eq_true_eq,
      Value.rational.injEq, Value.infinite.injEq, scaled_eq_iff, reduceCtorEq, Bool.false_eq_true]

/-- An integer is a size with a sign. -/
theorem intCast_eq_signed (value : Int) :
    (value : ℚ) = signed (decide (value < 0)) value.natAbs := by
  by_cases below : value < 0
  · rw [signed, decide_eq_true below, if_pos rfl, Nat.cast_natAbs, abs_of_neg below, Int.cast_neg,
      neg_neg]
  · rw [signed, decide_eq_false below, if_neg Bool.false_ne_true, Nat.cast_natAbs,
      abs_of_nonneg (not_lt.mp below)]

theorem Binary.isInteger_iff (number : Binary) (value : Int) :
    number.isInteger value = true ↔ number.value = .rational value := by
  cases number with
  | nan => simp [isInteger, Binary.value]
  | infinite negative => simp [isInteger, Binary.value]
  | finite negative significand exponent =>
    have unscaled : (value : ℚ) = signed (decide (value < 0)) value.natAbs * 2 ^ (0 : Int) := by
      rw [zpow_zero, mul_one, intCast_eq_signed]
    rw [Binary.value, Value.rational.injEq, unscaled, scaled_eq_iff, sub_zero, zero_sub, isInteger,
      Bool.and_eq_true, Bool.or_eq_true, decide_eq_true_eq, decide_eq_true_eq, decide_eq_true_eq]
    apply and_congr_right
    intro same
    have nought : value.natAbs = 0 ↔ significand = 0 := by
      have zero := congrArg (· = 0) same
      simpa [Nat.mul_eq_zero, twoTo_ne_zero] using zero.symm
    rw [nought]

end Number

/-! ## Keys -/

/-- What the value of a time is. -/
inductive TimeValue where
  /-- By the clock, where the zone is not known. -/
  | clock (day : Day) (clock : Clock)
  /-- In minutes of universal time and what is left. -/
  | universal (minutes : Int) (second microsecond : Nat)

/-- The value of a time of a day. -/
def TimeValue.of (day : Day) (time : Clock) : TimeValue :=
  match time.offset with
  | some ahead => .universal (time.universalMinutes day ahead) time.second time.microsecond
  | none => .clock day time

theorem sameMoment_iff (first second : Day) (clock other : Clock) :
    sameMoment first clock second other = true ↔
      TimeValue.of first clock = TimeValue.of second other := by
  obtain ⟨hour, minute, second, microsecond, offset⟩ := clock
  obtain ⟨otherHour, otherMinute, otherSecond, otherMicrosecond, otherOffset⟩ := other
  cases offset <;> cases otherOffset <;> simp [sameMoment, TimeValue.of, and_assoc]

/-- What the value of a key is. -/
inductive KeyValue where
  | nothing
  | number (value : Number.Value)
  | text (value : String)
  | day (day : Day)
  | time (value : TimeValue)

namespace Setting

/-- The value of a key. Lists and tables are no keys. -/
def keyValue? : Setting → Option KeyValue
  | null => some .nothing
  | flag value => some (.number (.rational (flagValue value)))
  | integer value => some (.number (.rational value))
  | decimal value => some (.number value.value)
  | text value => some (.text value)
  | date day => some (.day day)
  | moment day clock => some (.time (.of day clock))
  | list _ | table _ => none

theorem flagValue_inj (first second : Bool) :
    flagValue first = flagValue second ↔ first = second := by
  cases first <;> cases second <;> decide

/-- Two settings are the same key exactly if they have a value, and the same. -/
theorem sameKey_iff (first second : Setting) :
    first.sameKey second = true ↔
      first.keyValue? = second.keyValue? ∧ first.keyValue? ≠ none := by
  cases first <;> cases second <;>
    simp [sameKey, keyValue?, Number.Binary.sameValue_iff, Number.Binary.isInteger_iff,
      sameMoment_iff, flagValue_inj]
  all_goals exact eq_comm

/-- The setting can be a key: it is the same as itself. -/
def IsKey (key : Setting) : Prop := key.sameKey key = true

instance (key : Setting) : Decidable key.IsKey := inferInstanceAs (Decidable (_ = true))

section Same

variable {first second : Setting}

theorem sameKey_symm (same : first.sameKey second = true) : second.sameKey first = true := by
  rw [sameKey_iff] at same ⊢
  exact ⟨same.1.symm, same.1 ▸ same.2⟩

/-- Settings that are the same key are the same as the same others. -/
theorem sameKey_congr (same : first.sameKey second = true) (third : Setting) :
    first.sameKey third = second.sameKey third := by
  rw [Bool.eq_iff_iff, sameKey_iff, sameKey_iff, ((sameKey_iff first second).mp same).1]

theorem sameKey_comm (first second : Setting) : first.sameKey second = second.sameKey first :=
  Bool.eq_iff_iff.mpr ⟨sameKey_symm, sameKey_symm⟩

end Same

end Setting

end LintReview
