import LintReview.Text.Lines
import LintReview.Text.OneOf

/-!
# What plain scalars look like

A plain scalar without a tag gets the tag of the first kind it looks like: a truth value,
a decimal number, an integer, the mark of a merge, null, a time, or the mark of a value.
Anything else is text. Underscores may stand among digits.
-/

namespace LintReview.Yaml

/-- What all standard tags begin with. -/
def standardPrefix : String := "tag:yaml.org,2002:"

/-- A standard tag. -/
def standardTag (name : String) : String := standardPrefix ++ name

/-- The tag of texts. -/
def textTag : String := standardTag "str"

/-- The tag of sequences. -/
def sequenceTag : String := standardTag "seq"

/-- The tag of mappings. -/
def mappingTag : String := standardTag "map"

/-- The words for truth values, each in lower case, capitalised and in upper case. -/
def truthWords : List (String × Bool) :=
  [("yes", true), ("Yes", true), ("YES", true), ("no", false), ("No", false), ("NO", false),
   ("true", true), ("True", true), ("TRUE", true), ("false", false), ("False", false),
   ("FALSE", false), ("on", true), ("On", true), ("ON", true), ("off", false), ("Off", false),
   ("OFF", false)]

/-- The words for null. -/
def nullWords : List String := ["", "~", "null", "Null", "NULL"]

/-- The text without a sign in front. -/
def unsigned (text : List Char) : List Char :=
  match text with
  | '+' :: rest | '-' :: rest => rest
  | _ => text

/-- Digits and underscores. -/
def isDigitOrGap (character : Char) : Bool := character.isDigit || character = '_'

/-- Digits and underscores that begin with a digit. -/
def isNumeral (text : List Char) : Bool :=
  text.head?.any Char.isDigit && text.all isDigitOrGap

/-- One digit, or two that are less than sixty. -/
def isSexagesimalDigit (text : List Char) : Bool :=
  match text with
  | [low] => low.isDigit
  | [high, low] => '0' ≤ high && high ≤ '5' && low.isDigit
  | _ => false

/-- Nothing, or an exponent with its sign. -/
def isExponent (text : List Char) : Bool :=
  match text with
  | [] => true
  | mark :: sign :: digits =>
    (mark = 'e' || mark = 'E') && (sign = '+' || sign = '-') && !digits.isEmpty
      && digits.all Char.isDigit
  | _ => false

/-- Digits and underscores after the point, and perhaps an exponent. -/
def isFraction (text : List Char) : Bool := isExponent (text.dropWhile isDigitOrGap)

/-- A number in sixties: a numeral, then groups after colons, of which at least one. -/
def isSexagesimal (text : List Char) : Bool :=
  match Text.split ':' text with
  | first :: second :: others => isNumeral first && (second :: others).all isSexagesimalDigit
  | _ => false

/-- The words for infinity, after the point. -/
def infinityWords : List (List Char) := ["inf".toList, "Inf".toList, "INF".toList]

/-- The words for an undefined number, after the point. -/
def undefinedWords : List (List Char) := ["nan".toList, "NaN".toList, "NAN".toList]

/-- The text looks like a decimal number. -/
def isDecimal (text : List Char) : Bool :=
  let body := unsigned text
  let beforePoint := body.takeWhile (· ≠ '.')
  match body.dropWhile (· ≠ '.') with
  | [] => false
  | _ :: afterPoint =>
    (isNumeral beforePoint && isFraction afterPoint)
      || (isSexagesimal beforePoint && afterPoint.all isDigitOrGap)
      || (beforePoint.isEmpty && Text.isOneOf infinityWords afterPoint)
      || (text.head? = some '.' && Text.isOneOf undefinedWords afterPoint)
      || (text.head? = some '.' && afterPoint.head?.any Char.isDigit && isFraction afterPoint)

/-- The text is not empty, and all its characters pass a test or are underscores. -/
def isFilled (test : Char → Bool) (text : List Char) : Bool :=
  !text.isEmpty && text.all fun character => test character || character = '_'

/-- A hexadecimal digit. -/
def isHexadecimal (character : Char) : Bool :=
  character.isDigit || ('a' ≤ character && character ≤ 'f') || ('A' ≤ character && character ≤ 'F')

/-- The text looks like an integer. -/
def isInteger (text : List Char) : Bool :=
  match unsigned text with
  | ['0'] => true
  | '0' :: 'b' :: digits => isFilled (fun digit => digit = '0' || digit = '1') digits
  | '0' :: 'x' :: digits => isFilled isHexadecimal digits
  | '0' :: digits => isFilled (fun digit => '0' ≤ digit && digit ≤ '7') digits
  | digits => isNumeral digits || isSexagesimal digits

/-- Digits at the front, at least one and at most the given number, and what follows. -/
def digitsUpTo (most : Nat) (text : List Char) : Option (List Char × List Char) :=
  let digits := (text.take most).takeWhile Char.isDigit
  if digits.isEmpty then none else some (digits, text.drop digits.length)

/-- Exactly the given number of digits at the front, and what follows. -/
def digitsExactly (count : Nat) (text : List Char) : Option (List Char × List Char) :=
  let digits := text.take count
  if digits.length = count && digits.all Char.isDigit then some (digits, text.drop count) else none

/-- What follows a character at the front. -/
def after? (character : Char) (text : List Char) : Option (List Char) :=
  match text with
  | first :: rest => if first = character then some rest else none
  | [] => none

/-- A time zone: universal time, or hours and minutes ahead or behind. -/
inductive Zone where
  | universal
  | ahead (negative : Bool) (hours minutes : List Char)
  deriving Repr, DecidableEq

/-- The digits of a time of day. -/
structure ClockText where
  hour : List Char
  minute : List Char
  second : List Char
  fraction : List Char
  zone : Option Zone
  deriving Repr, DecidableEq

/-- The digits of a day, and of a time of that day. -/
structure Timestamp where
  year : List Char
  month : List Char
  day : List Char
  clock : Option ClockText
  deriving Repr, DecidableEq

/-- A blank between the parts of a time. -/
def isTimeBlank (character : Char) : Bool := character = ' ' || character = '\t'

/-- Reads the rest of a time zone, after its sign. -/
def zoneDigits (negative : Bool) (text : List Char) : Option Zone := do
  let (hours, rest) ← digitsUpTo 2 text
  match rest with
  | [] => some (.ahead negative hours [])
  | ':' :: minutes => do
    let (found, ending) ← digitsExactly 2 minutes
    if ending.isEmpty then some (.ahead negative hours found) else none
  | _ => none

/-- Reads a time zone at the end of a text, which may be absent. -/
def zone? (text : List Char) : Option (Option Zone) :=
  match text with
  | [] => some none
  | _ =>
    match text.dropWhile isTimeBlank with
    | ['Z'] => some (some .universal)
    | '+' :: rest => (zoneDigits false rest).map some
    | '-' :: rest => (zoneDigits true rest).map some
    | _ => none

/-- Reads a time of day. -/
def clock? (text : List Char) : Option ClockText := do
  let (hour, afterHour) ← digitsUpTo 2 text
  let (minute, afterMinute) ← digitsExactly 2 (← after? ':' afterHour)
  let (second, afterSecond) ← digitsExactly 2 (← after? ':' afterMinute)
  let (fraction, ending) :=
    match afterSecond with
    | '.' :: rest => (rest.takeWhile Char.isDigit, rest.dropWhile Char.isDigit)
    | _ => ([], afterSecond)
  return ⟨hour, minute, second, fraction, ← zone? ending⟩

/-- Reads what stands between a day and a time of day. -/
def clockGap? (text : List Char) : Option (List Char) :=
  match text with
  | 'T' :: rest | 't' :: rest => some rest
  | first :: _ => if isTimeBlank first then some (text.dropWhile isTimeBlank) else none
  | [] => none

/-- Reads a day, or a day and a time. -/
def timestamp? (text : List Char) : Option Timestamp := do
  let (year, afterYear) ← digitsExactly 4 text
  let (month, afterMonth) ← digitsUpTo 2 (← after? '-' afterYear)
  let (day, rest) ← digitsUpTo 2 (← after? '-' afterMonth)
  if rest.isEmpty then return ⟨year, month, day, none⟩
  return ⟨year, month, day, some (← clock? (← clockGap? rest))⟩

/-- The text looks like a day or a time. A day alone has two digits for month and day. -/
def isTimestamp (text : List Char) : Bool :=
  match timestamp? text with
  | some found => found.clock.isSome || (found.month.length = 2 && found.day.length = 2)
  | none => false

/-- The tag of a plain scalar. -/
def plainTag (text : List Char) : String :=
  let word := String.ofList text
  if (truthWords.lookup word).isSome then standardTag "bool"
  else if isDecimal text then standardTag "float"
  else if isInteger text then standardTag "int"
  else if word = "<<" then standardTag "merge"
  else if word ∈ nullWords then standardTag "null"
  else if isTimestamp text then standardTag "timestamp"
  else if word = "=" then standardTag "value"
  else textTag

end LintReview.Yaml
