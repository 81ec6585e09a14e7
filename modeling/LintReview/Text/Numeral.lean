import LintReview.Text.Digit
import LintReview.Text.Blank
import LintReview.Text.Quoted

/-!
# Integers in text

An integer is written with an optional sign and decimal digits of any script. Single
underscores may stand between digits, and blanks around the whole. More than
`maxDigits` digits are refused before anything else after them is looked at, so the
work stays bounded by the length of the numeral.
-/

namespace LintReview.Text

/-- The longest numeral that is read. -/
def maxDigits : Nat := 4300

/-- Why a text is not read as an integer. -/
inductive NumeralError where
  /-- The text is not a numeral. -/
  | malformed (text : List Char)
  /-- The numeral has more digits than are read. -/
  | tooLong (digits : Nat)
  deriving Repr, DecidableEq

/-- The words for the refusal. A quoted text is cut off after two hundred characters. -/
def NumeralError.message : NumeralError → String
  | .malformed text =>
    "invalid literal for int() with base 10: " ++ String.ofList ((quoted text).take 200)
  | .tooLong digits =>
    s!"Exceeds the limit (4300 digits) for integer string conversion: value has {digits} digits; "
      ++ "use sys.set_int_max_str_digits() to increase the limit"

/-- The value of a run of digits, unless it is too long. -/
def readDigits (digits : List Char) : Except NumeralError Nat :=
  if digits.length > maxDigits then .error (.tooLong digits.length) else .ok (digitsValue digits)

/-- The blanks that may surround a numeral: of the characters up to the delete character
    only space and the five controls after the backspace. -/
def isNumeralBlank (character : Char) : Bool :=
  isBlank character && !(28 ≤ character.toNat && character.toNat ≤ 31)

/-- The digits at the start of a text, single underscores between them dropped, and what
    follows. `none` where an underscore does not stand between two digits. The flag tells
    whether a digit stands directly before. -/
def leadingDigits (afterDigit : Bool) : List Char → Option (List Char × List Char)
  | [] => some ([], [])
  | '_' :: next :: rest =>
    if afterDigit && isDigit next then
      (leadingDigits true (next :: rest)).map fun (digits, remaining) => (digits, remaining)
    else none
  | character :: rest =>
    if isDigit character then
      (leadingDigits true rest).map fun (digits, remaining) => (character :: digits, remaining)
    else if character = '_' then none
    else some ([], character :: rest)

/-- The integer that a text denotes. -/
def readInteger (text : List Char) : Except NumeralError Int :=
  let body := text.dropWhile isNumeralBlank
  let (negative, magnitude) :=
    match body with
    | '-' :: rest => (true, rest)
    | '+' :: rest => (false, rest)
    | _ => (false, body)
  match leadingDigits false magnitude with
  | none => .error (.malformed text)
  | some (digits, remaining) =>
    match readDigits digits with
    | .error problem => .error problem
    | .ok value =>
      if digits.isEmpty || !remaining.all isNumeralBlank then .error (.malformed text)
      else .ok (if negative then -(value : Int) else value)

end LintReview.Text
