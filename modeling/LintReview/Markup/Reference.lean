import LintReview.Markup.Character
import LintReview.Markup.Error

/-!
# References

A reference stands between `&` and `;`. It gives a character by its code point, in
decimal or after an `x` in hexadecimal, or it names an entity. Five names are known in
every document.

A construct that cannot be read to its end is told apart by whether the text ends
inside it or holds something that does not belong there.
-/

namespace LintReview.Markup

/-- Why a construct cannot be read. -/
inductive Stop where
  /-- The text ends inside the construct. -/
  | ended
  /-- What stands here does not belong to the construct. -/
  | refused (here : List Char)
  deriving Repr, DecidableEq

/-- The failure of a construct that begins at `start`. -/
def Stop.failure (start : List Char) : Stop → Failure
  | .ended => ⟨.unclosedToken, start⟩
  | .refused here => ⟨.invalidToken, here⟩

/-- What a reference stands for. -/
inductive Reference where
  | number (code : Nat)
  | entity (name : List Char)
  deriving Repr, DecidableEq

/-- Reads the semicolon that ends a reference. -/
def closeReference (target : Reference) : List Char → Except Stop (Reference × List Char)
  | [] => .error .ended
  | ';' :: rest => .ok (target, rest)
  | here => .error (.refused here)

/-- The value of a hexadecimal digit. -/
def hexValue (digit : Char) : Nat :=
  if digit.isDigit then digit.toNat - 48
  else if 'a' ≤ digit then digit.toNat - 87
  else digit.toNat - 55

/-- A hexadecimal digit, of either case. -/
def isHexDigit (character : Char) : Bool :=
  character.isDigit || ('a' ≤ character && character ≤ 'f') || ('A' ≤ character && character ≤ 'F')

/-- The number that digits denote in a base. -/
def numberOf (base : Nat) (digits : List Char) : Nat :=
  digits.foldl (fun value digit => value * base + hexValue digit) 0

/-- Reads the digits of a character number and the end of the reference. -/
def numberReference (base : Nat) (isDigit : Char → Bool) (text : List Char) :
    Except Stop (Reference × List Char) :=
  match text with
  | [] => .error .ended
  | first :: _ =>
    if isDigit first then
      closeReference (.number (numberOf base (text.takeWhile isDigit))) (text.dropWhile isDigit)
    else .error (.refused text)

/-- Reads a reference of which the ampersand is already read. -/
def reference (text : List Char) : Except Stop (Reference × List Char) :=
  match text with
  | [] => .error .ended
  | '#' :: 'x' :: rest => numberReference 16 isHexDigit rest
  | '#' :: rest => numberReference 10 Char.isDigit rest
  | first :: _ =>
    if isNameStart first then
      closeReference (.entity (text.takeWhile isNameCharacter)) (text.dropWhile isNameCharacter)
    else .error (.refused text)

/-- Dropping from the front never lengthens a list. -/
theorem length_dropWhile_le {α : Type} (test : α → Bool) (items : List α) :
    (items.dropWhile test).length ≤ items.length :=
  (List.dropWhile_suffix test).length_le

theorem length_closeReference {target found : Reference} {text rest : List Char}
    (read : closeReference target text = .ok (found, rest)) : rest.length < text.length := by
  unfold closeReference at read
  split at read <;> simp_all

theorem length_numberReference {base : Nat} {isDigit : Char → Bool} {found : Reference}
    {text rest : List Char} (read : numberReference base isDigit text = .ok (found, rest)) :
    rest.length < text.length := by
  unfold numberReference at read
  split at read
  · simp at read
  · split at read
    · exact Nat.lt_of_lt_of_le (length_closeReference read) (length_dropWhile_le _ _)
    · simp at read

/-- A reference takes at least one character after the ampersand. -/
theorem length_reference {found : Reference} {text rest : List Char}
    (read : reference text = .ok (found, rest)) : rest.length < text.length := by
  unfold reference at read
  split at read
  · simp at read
  · have shorter := length_numberReference read
    simp only [List.length_cons]
    omega
  · have shorter := length_numberReference read
    simp only [List.length_cons]
    omega
  · split at read
    · exact Nat.lt_of_lt_of_le (length_closeReference read) (length_dropWhile_le _ _)
    · simp at read

/-- The character with a code point, if a document may hold it. -/
def characterOfCode? (code : Nat) : Option Char :=
  if 0xd800 ≤ code && code ≤ 0xdfff then none
  else if 0x110000 ≤ code then none
  else if isCharacter (Char.ofNat code) then some (Char.ofNat code) else none

/-- The entities that every document knows. -/
def predefined? (name : List Char) : Option Char :=
  if name = ['l', 't'] then some '<'
  else if name = ['g', 't'] then some '>'
  else if name = ['a', 'm', 'p'] then some '&'
  else if name = ['q', 'u', 'o', 't'] then some '"'
  else if name = ['a', 'p', 'o', 's'] then some '\''
  else none

end LintReview.Markup
