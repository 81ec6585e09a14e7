import LintReview.Text.Blank
import LintReview.Text.Casing
import LintReview.Text.Digit
import LintReview.Text.Word

/-!
# Sets of characters

A pattern matches one character at a time against a set. A set lists ranges of code
points and kinds of characters, or takes all characters but those. Where letter case is
ignored, a character is in a range if any form of the same letter is.
-/

namespace LintReview.Pattern

/-- How the letters of a pattern are compared. -/
inductive Folding where
  /-- Every letter is itself only. -/
  | exact
  /-- The two cases of an English letter are one. -/
  | ascii
  /-- The two cases of a letter of any script are one. -/
  | full
  deriving Repr, DecidableEq

/-- A kind of characters. -/
inductive Category where
  | digit
  | blank
  | word
  deriving Repr, DecidableEq

/-- A character between 0 and 127. -/
def isAscii (character : Char) : Bool := character.toNat < 128

/-- The character is of the kind, among the English characters or among all. -/
def Category.holds (kind : Category) (asciiOnly : Bool) (character : Char) : Bool :=
  match kind with
  | .digit => if asciiOnly then Text.isAsciiDigit character else Text.isDigit character
  | .blank =>
    if asciiOnly then character ∈ [' ', '\t', '\n', '\r', '\x0b', '\x0c']
    else Text.isBlank character
  | .word =>
    (!asciiOnly || isAscii character) && Text.isWordCharacter character

/-- The characters that are the same letter as the given one. -/
def Folding.forms (folding : Folding) (character : Char) : List Char :=
  match folding with
  | .exact => [character]
  | .ascii => [character, character.toLower, character.toUpper]
  | .full => Text.letterVariants character

/-- A part of a set. -/
inductive Item where
  /-- The characters between two code points. -/
  | range (first last : Nat)
  /-- The characters of a kind, or those of any other. -/
  | category (kind : Category) (negated : Bool)
  deriving Repr, DecidableEq

/-- The part that holds a single code point. -/
def Item.single (code : Nat) : Item := .range code code

/-- A set of characters. -/
structure CharacterSet where
  negated : Bool
  items : List Item
  folding : Folding
  /-- The kinds take English characters only. -/
  asciiOnly : Bool
  deriving Repr, DecidableEq

/-- The part of a set holds the character. -/
def CharacterSet.itemHolds (set : CharacterSet) (character : Char) : Item → Bool
  | .range first last =>
    (set.folding.forms character).any fun form => first ≤ form.toNat && form.toNat ≤ last
  | .category kind negated => kind.holds set.asciiOnly character != negated

/-- The set holds the character. -/
def CharacterSet.contains (set : CharacterSet) (character : Char) : Bool :=
  set.items.any (set.itemHolds character) != set.negated

end LintReview.Pattern
