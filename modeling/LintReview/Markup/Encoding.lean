import LintReview.Text.Utf8

/-!
# Documents in units of two bytes

A document begins with a character of one byte. Where the first or the second byte is
zero, the bytes are therefore taken in pairs, and the zero tells which byte of a pair
comes first. Units in the surrogate range stand for one character by twos; one that is
left alone gives a character that no document may hold, and so does a unit of no
character.
-/

namespace LintReview.Markup

/-- The units of two bytes. A byte that is left over at the end is dropped. -/
def pairedUnits (largerFirst : Bool) : List UInt8 → List Nat
  | first :: second :: rest =>
    let unit := if largerFirst then first.toNat * 256 + second.toNat
      else second.toNat * 256 + first.toNat
    unit :: pairedUnits largerFirst rest
  | _ => []

/-- The characters of units of two bytes. -/
def unitCharacters : List Nat → List Char
  | [] => []
  | [unit] => [if 0xd800 ≤ unit && unit ≤ 0xdfff then '\uffff' else Char.ofNat unit]
  | unit :: next :: rest =>
    if 0xd800 ≤ unit && unit ≤ 0xdbff && 0xdc00 ≤ next && next ≤ 0xdfff then
      Char.ofNat (0x10000 + (unit - 0xd800) * 0x400 + (next - 0xdc00)) :: unitCharacters rest
    else if 0xd800 ≤ unit && unit ≤ 0xdfff then '\uffff' :: unitCharacters (next :: rest)
    else Char.ofNat unit :: unitCharacters (next :: rest)

/-- The text in units of two bytes, where the first two bytes call for it. -/
def repaired (text : List Char) : List Char :=
  match Text.encode (text.take 2) with
  | first :: second :: _ =>
    if first = 0 then unitCharacters (pairedUnits true (Text.encode text))
    else if second = 0 then unitCharacters (pairedUnits false (Text.encode text))
    else text
  | _ => text

end LintReview.Markup
