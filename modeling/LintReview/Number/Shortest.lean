import LintReview.Number.Binary

/-!
# The fewest digits that read back

A positive number is written with the fewest decimal digits that are read as the same
number. On each decimal grid, from the coarsest on, the two neighbours of the number are
tried; if both read back, the nearer is taken, and of two equally near ones the even.
-/

namespace LintReview.Number

/-- Decimal digits, and where the point stands: behind the first `point` of them. -/
structure Decimal where
  digits : Nat
  point : Int
  deriving Repr, DecidableEq

/-- The least number of places, starting from `places`, by which the point moves to the
    left of the quotient. -/
def leadingPlaces (numerator denominator : Nat) : Nat → Int → Int
  | 0, places => places
  | fuel + 1, places =>
    if denominator ≤ numerator * 10 then places
    else leadingPlaces (numerator * 10) denominator fuel (places - 1)

/-- How many digits a quotient has before the point; negative for the zeros after it. -/
def pointOf (numerator denominator : Nat) : Int :=
  if denominator ≤ numerator then (toString (numerator / denominator)).length
  else leadingPlaces numerator denominator 400 0

/-- A quotient in units of ten to the exponent, as numerator and denominator. -/
def inTens (numerator denominator : Nat) (exponent : Int) : Nat × Nat :=
  (numerator * tenTo (-exponent).toNat, denominator * tenTo exponent.toNat)

/-- The neighbour of a quotient on the grid of ten to the exponent that reads back as the
    number. -/
def neighbour? (number : Binary) (numerator denominator : Nat) (exponent : Int) : Option Nat :=
  let (scaled, unit) := inTens numerator denominator exponent
  let below := scaled / unit
  let readsBack (digits : Nat) : Bool := Binary.ofDecimal digits exponent = number
  match readsBack below && 0 < below, readsBack (below + 1) with
  | true, true => some (roundedQuotient scaled unit)
  | true, false => some below
  | false, true => some (below + 1)
  | false, false => none

/-- The neighbour on the coarsest grid that has one, among the given numbers of digits. -/
def shortestAmong (number : Binary) (numerator denominator : Nat) (point : Int) :
    List Nat → Option Decimal
  | [] => none
  | count :: rest =>
    match neighbour? number numerator denominator (point - count) with
    | some digits =>
      -- rounding up can reach the next power of ten
      some ⟨digits, if digits = tenTo count then point + 1 else point⟩
    | none => shortestAmong number numerator denominator point rest

/-- The shortest decimal of a positive number. -/
def Binary.shortest? (number : Binary) : Option Decimal :=
  match number.quotient? with
  | some (numerator, denominator) =>
    if numerator = 0 then none
    else
      shortestAmong number numerator denominator (pointOf numerator denominator)
        ((List.range 17).map (· + 1))
  | none => none

/-- Digits without the zeros at their end. -/
def significant (digits : Nat) : List Char :=
  ((toString digits).toList.reverse.dropWhile (· = '0')).reverse

/-- Digits with the point after the first `point` of them, and at least one digit on
    either side of it. -/
def positional (digits : List Char) (point : Int) : List Char :=
  if point ≤ 0 then '0' :: '.' :: List.replicate (-point).toNat '0' ++ digits
  else
    let whole := point.toNat
    if digits.length ≤ whole then
      digits ++ List.replicate (whole - digits.length) '0' ++ ['.', '0']
    else digits.take whole ++ '.' :: digits.drop whole

/-- Digits with the point after the first, and the exponent with its sign and at least
    two digits. -/
def scientific (digits : List Char) (exponent : Int) : List Char :=
  let mantissa :=
    match digits with
    | first :: [] => [first]
    | first :: rest => first :: '.' :: rest
    | [] => []
  let size := (toString exponent.natAbs).toList
  let padded := List.replicate (2 - size.length) '0' ++ size
  mantissa ++ 'e' :: (if exponent < 0 then '-' else '+') :: padded

/-- A decimal in words: positional between a ten-thousandth and ten to the sixteenth,
    scientific beyond. -/
def Decimal.written (decimal : Decimal) : List Char :=
  let digits := significant decimal.digits
  if -4 < decimal.point ∧ decimal.point ≤ 16 then positional digits decimal.point
  else scientific digits (decimal.point - 1)

/-- The number in words. -/
def Binary.written : Binary → String
  | .nan => "nan"
  | .infinite negative => if negative then "-inf" else "inf"
  | .finite negative significand exponent =>
    let magnitude :=
      match (Binary.finite false significand exponent).shortest? with
      | some decimal => String.ofList decimal.written
      | none => "0.0"
    if negative then "-" ++ magnitude else magnitude

end LintReview.Number
