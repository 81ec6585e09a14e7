/-!
# Binary numbers

A binary number has a significand of at most 53 bits and an exponent of two of at least
-1074. A quotient is rounded to the nearest such number, a half to the even significand;
what is too large becomes infinite. Arithmetic goes through exact quotients.
-/

namespace LintReview.Number

/-- A number with 53 significant bits, or one of the values beyond them. -/
inductive Binary where
  | nan
  | infinite (negative : Bool)
  /-- The value is the significand times two to the exponent. -/
  | finite (negative : Bool) (significand : Nat) (exponent : Int)
  deriving Repr, DecidableEq

/-- The least exponent. -/
def leastExponent : Int := -1074

/-- The largest exponent. -/
def largestExponent : Int := 971

/-- The quotient of two numbers, rounded to the nearest, a half to the even. -/
def roundedQuotient (numerator denominator : Nat) : Nat :=
  let quotient := numerator / denominator
  let remainder := numerator % denominator
  if 2 * remainder < denominator then quotient
  else if 2 * remainder > denominator then quotient + 1
  else if quotient % 2 = 0 then quotient
  else quotient + 1

/-- Two to an exponent. -/
def twoTo (exponent : Nat) : Nat := Nat.pow 2 exponent

/-- Ten to an exponent. -/
def tenTo (exponent : Nat) : Nat := Nat.pow 10 exponent

/-- A quotient in units of two to the exponent, as numerator and denominator. -/
def inUnits (numerator denominator : Nat) (exponent : Int) : Nat × Nat :=
  (numerator * twoTo (-exponent).toNat, denominator * twoTo exponent.toNat)

/-- The exponent at which a quotient has 53 bits, or the least one. -/
def exponentFor (numerator denominator : Nat) : Int :=
  let estimate := max leastExponent ((numerator.log2 : Int) - denominator.log2 - 53)
  let (scaled, unit) := inUnits numerator denominator estimate
  if scaled < unit * twoTo 53 then estimate else estimate + 1

/-- The number nearest to a quotient. -/
def Binary.ofQuotient (negative : Bool) (numerator denominator : Nat) : Binary :=
  if numerator = 0 || denominator = 0 then .finite negative 0 leastExponent
  else
    let exponent := exponentFor numerator denominator
    let (scaled, unit) := inUnits numerator denominator exponent
    let significand := roundedQuotient scaled unit
    let (significand, exponent) :=
      if significand = twoTo 53 then (twoTo 52, exponent + 1) else (significand, exponent)
    if largestExponent < exponent then .infinite negative else .finite negative significand exponent

/-- The number nearest to a natural number. -/
def Binary.ofNat (value : Nat) : Binary := .ofQuotient false value 1

/-- The value of a number that is neither negative nor special, as a quotient. -/
def Binary.quotient? : Binary → Option (Nat × Nat)
  | .finite false significand exponent =>
    some (significand * twoTo exponent.toNat, twoTo (-exponent).toNat)
  | _ => none

/-- The number nearest to digits times a power of ten. A power that is out of reach for
    so many digits is not computed. -/
def Binary.ofDecimal (digits : Nat) (exponent : Int) : Binary :=
  let size : Int := (toString digits).length
  if digits = 0 || exponent + size < -400 then .ofQuotient false 0 1
  else if 400 < exponent + size then .infinite false
  else .ofQuotient false (digits * tenTo exponent.toNat) (tenTo (-exponent).toNat)

/-- The number with the other sign. -/
def Binary.negate : Binary → Binary
  | .nan => .nan
  | .infinite negative => .infinite (!negative)
  | .finite negative significand exponent => .finite (!negative) significand exponent

/-- The sum of two numbers that are not negative. -/
def Binary.add (first second : Binary) : Binary :=
  match first.quotient?, second.quotient? with
  | some (numerator, denominator), some (otherNumerator, otherDenominator) =>
    .ofQuotient false (numerator * otherDenominator + otherNumerator * denominator)
      (denominator * otherDenominator)
  | _, _ => .infinite false

/-- The product of two numbers that are not negative. -/
def Binary.multiply (first second : Binary) : Binary :=
  match first.quotient?, second.quotient? with
  | some (numerator, denominator), some (otherNumerator, otherDenominator) =>
    .ofQuotient false (numerator * otherNumerator) (denominator * otherDenominator)
  | _, _ => .infinite false

/-- The number is a zero of either sign. -/
def Binary.isZero : Binary → Bool
  | .finite _ significand _ => significand = 0
  | _ => false

/-- The number is the given integer. -/
def Binary.isInteger (number : Binary) (value : Int) : Bool :=
  match number with
  | .finite negative significand exponent =>
    let magnitude := value.natAbs
    decide (significand * twoTo exponent.toNat = magnitude * twoTo (-exponent).toNat)
      && (magnitude = 0 || negative = decide (value < 0))
  | _ => false

/-- Two numbers have the same value. The zeros do, and so do the undefined numbers. -/
def Binary.sameValue : Binary → Binary → Bool
  | .nan, .nan => true
  | .infinite negative, .infinite other => negative = other
  | .finite negative significand exponent, .finite other otherSignificand otherExponent =>
    significand * twoTo (exponent - otherExponent).toNat =
        otherSignificand * twoTo (otherExponent - exponent).toNat
      && (significand = 0 || negative = other)
  | _, _ => false

end LintReview.Number
