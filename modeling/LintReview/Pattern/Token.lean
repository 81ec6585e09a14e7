import LintReview.Pattern.Basic
import LintReview.Text.CharacterName
import LintReview.Text.Numeral

/-!
# The characters of a written pattern

A written pattern is a list of characters, some of them with a backslash in front. Such
an escape stands for a character, a kind of characters, a place or an earlier group; what
it stands for inside a set differs a little from what it stands for outside.
-/

namespace LintReview.Pattern

/-- Why a written pattern is refused. -/
inductive Error where
  /-- It is not written as a pattern. -/
  | malformed
  /-- A number of repetitions is too large. -/
  | repetitions
  /-- It asks for English letters and for all letters. -/
  | letters
  /-- A number has too many digits. -/
  | number (cause : Text.NumeralError)
  deriving Repr, DecidableEq

/-- A character of a written pattern. -/
inductive Token where
  | plain (character : Char)
  /-- A character with a backslash in front. -/
  | escaped (character : Char)
  deriving Repr, DecidableEq

/-- The characters of a written pattern. A backslash at the end stands in front of none. -/
def tokens? : List Char → Option (List Token)
  | [] => some []
  | ['\\'] => none
  | '\\' :: character :: rest => (tokens? rest).map (.escaped character :: ·)
  | character :: rest => (tokens? rest).map (.plain character :: ·)

/-- The text of a character of a pattern. -/
def Token.text : Token → List Char
  | .plain character => [character]
  | .escaped character => ['\\', character]

/-- Takes plain characters that pass a test, at most `count` of them. -/
def takePlain (test : Char → Bool) : Nat → List Token → List Char × List Token
  | count + 1, .plain character :: rest =>
    if test character then
      let (taken, left) := takePlain test count rest
      (character :: taken, left)
    else ([], .plain character :: rest)
  | _, tokens => ([], tokens)

/-- Takes all plain digits. -/
def takeDigits (tokens : List Token) : List Char × List Token :=
  takePlain Text.isAsciiDigit tokens.length tokens

/-- The text up to a plain character, which must be there, and what follows it. -/
def textUntil? (stop : Char) : List Token → Option (List Char × List Token)
  | [] => none
  | token :: rest =>
    if token = .plain stop then some ([], rest)
    else (textUntil? stop rest).map fun (text, left) => (token.text ++ text, left)

/-- A name up to a plain character. -/
def nameUntil? (stop : Char) (tokens : List Token) : Option (List Char × List Token) :=
  (textUntil? stop tokens).filter fun (name, _) => !name.isEmpty

/-- A digit below eight. -/
def isOctalDigit (character : Char) : Bool := '0' ≤ character && character ≤ '7'

/-- The value of a hexadecimal digit. -/
def hexDigitValue? (character : Char) : Option Nat :=
  if Text.isAsciiDigit character then some (character.toNat - 48)
  else if 'a' ≤ character && character ≤ 'f' then some (character.toNat - 87)
  else if 'A' ≤ character && character ≤ 'F' then some (character.toNat - 55)
  else none

/-- The number that digits denote in a base. -/
def valueOf (base : Nat) (digits : List Char) : Nat :=
  digits.foldl (fun value digit => value * base + (hexDigitValue? digit).getD 0) 0

/-- The code point of an escape that gives it in digits or by name: the letter of the
    escape tells how. None for another letter. -/
def codeEscape? (letter : Char) (tokens : List Token) :
    Option (Except Error (Nat × List Token)) :=
  let inHex (count : Nat) : Except Error (Nat × List Token) :=
    let (digits, rest) := takePlain (fun digit => (hexDigitValue? digit).isSome) count tokens
    let code := valueOf 16 digits
    if digits.length < count || 0x10ffff < code then .error .malformed else .ok (code, rest)
  match letter with
  | 'x' => some (inHex 2)
  | 'u' => some (inHex 4)
  | 'U' => some (inHex 8)
  | 'N' => some <|
    match tokens with
    | .plain '\x7b' :: inside =>
      match nameUntil? '\x7d' inside with
      | some (name, rest) =>
        match Text.namedCharacter? name with
        | some code => .ok (code, rest)
        | none => .error .malformed
      | none => .error .malformed
    | _ => .error .malformed
  | _ => none

/-- The character that a letter gives by itself. -/
def controlEscape? : Char → Option Nat
  | 'a' => some 7
  | 'b' => some 8
  | 'f' => some 12
  | 'n' => some 10
  | 'r' => some 13
  | 't' => some 9
  | 'v' => some 11
  | _ => none

/-- The kind of characters that a letter gives. A capital gives all others. -/
def categoryEscape? : Char → Option Item
  | 'd' => some (.category .digit false)
  | 'D' => some (.category .digit true)
  | 's' => some (.category .blank false)
  | 'S' => some (.category .blank true)
  | 'w' => some (.category .word false)
  | 'W' => some (.category .word true)
  | _ => none

/-- An English letter. -/
def isAsciiLetter (character : Char) : Bool := character.isAlpha

/-- The part of a set that an escape gives. -/
def itemOfEscape (letter : Char) (tokens : List Token) : Except Error (Item × List Token) :=
  match controlEscape? letter, categoryEscape? letter, codeEscape? letter tokens with
  | some code, _, _ => .ok (.single code, tokens)
  | _, some item, _ => .ok (item, tokens)
  | _, _, some found => found.map fun (code, rest) => (.single code, rest)
  | _, _, _ =>
    if isOctalDigit letter then
      let (digits, rest) := takePlain isOctalDigit 2 tokens
      let code := valueOf 8 (letter :: digits)
      if 0o377 < code then .error .malformed else .ok (.single code, rest)
    else if Text.isAsciiDigit letter || isAsciiLetter letter then .error .malformed
    else .ok (.single letter.toNat, tokens)

/-- What an escape gives outside of sets. -/
inductive Escape where
  | item (part : Item)
  | anchor (letter : Char)
  /-- The text of a group. -/
  | group (number : Nat)
  deriving Repr, DecidableEq

/-- What an escape that begins with a digit other than nought gives: three octal digits
    give a character, any others the number of a group. -/
def numberEscape (first : Char) (tokens : List Token) : Except Error (Escape × List Token) :=
  match tokens with
  | .plain second :: rest =>
    if !Text.isAsciiDigit second then .ok (.group (valueOf 10 [first]), tokens)
    else
      match rest with
      | .plain third :: others =>
        if isOctalDigit first && isOctalDigit second && isOctalDigit third then
          let code := valueOf 8 [first, second, third]
          if 0o377 < code then .error .malformed else .ok (.item (.single code), others)
        else .ok (.group (valueOf 10 [first, second]), rest)
      | _ => .ok (.group (valueOf 10 [first, second]), rest)
  | _ => .ok (.group (valueOf 10 [first]), tokens)

/-- What an escape gives outside of sets. -/
def Escape.read (letter : Char) (tokens : List Token) : Except Error (Escape × List Token) :=
  if letter ∈ ['A', 'b', 'B', 'Z'] then .ok (.anchor letter, tokens)
  else if letter = '0' then
    let (digits, rest) := takePlain isOctalDigit 2 tokens
    .ok (.item (.single (valueOf 8 digits)), rest)
  else if Text.isAsciiDigit letter then numberEscape letter tokens
  else (itemOfEscape letter tokens).map fun (part, rest) => (.item part, rest)

/-- The parts of a set up to its closing bracket, and what follows it. A bracket as the
    first part is a character. -/
def readItems : Nat → Bool → List Token → Except Error (List Item × List Token)
  | 0, _, _ => .error .malformed
  | _ + 1, _, [] => .error .malformed
  | fuel + 1, isFirst, token :: rest => do
    if token = .plain ']' && !isFirst then return ([], rest)
    let (item, rest) ← part token rest
    match rest with
    | [.plain '-'] => throw .malformed
    | .plain '-' :: .plain ']' :: rest => return ([item, .single '-'.toNat], rest)
    | .plain '-' :: other :: rest =>
      let (upper, rest) ← part other rest
      match item, upper with
      | .range low high, .range first last =>
        if low ≠ high || first ≠ last || last < low then throw .malformed
        let (others, left) ← readItems fuel false rest
        return (.range low last :: others, left)
      | _, _ => throw .malformed
    | _ =>
      let (others, left) ← readItems fuel false rest
      return (item :: others, left)
where
  /-- The part that a character of the pattern begins. -/
  part (token : Token) (rest : List Token) : Except Error (Item × List Token) :=
    match token with
    | .plain character => .ok (.single character.toNat, rest)
    | .escaped letter => itemOfEscape letter rest

/-- A set after its opening bracket: whether it is negated, its parts, and what follows. -/
def readSet (tokens : List Token) : Except Error (Bool × List Item × List Token) := do
  let (negated, rest) :=
    match tokens with
    | .plain '^' :: rest => (true, rest)
    | _ => (false, tokens)
  let (items, left) ← readItems (rest.length + 1) true rest
  return (negated, items, left)

end LintReview.Pattern
