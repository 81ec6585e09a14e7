import LintReview.Console.Style
import LintReview.Console.Symbol

/-!
# Texts with styles

In a text to be printed a style begins at its name in brackets and ends at that name after
a slash, or at a slash alone, which ends the style that began last. Backslashes in front of
a bracket are halved; if one is left over the bracket is meant as it stands. Without
colours the styles leave no trace, but one that ends must have begun. A style that does not
end is no error.
-/

namespace LintReview.Console

/-- A part of a text with styles. -/
inductive Part where
  /-- Characters up to the next bracket that names a style. -/
  | plain (text : List Char)
  /-- Characters that were written with backslashes. -/
  | escaped (text : List Char)
  /-- What a bracket names. -/
  | tag (name : List Char)
  deriving Repr, DecidableEq

/-- A bracket that names a style, after backslashes. -/
structure Bracket where
  slashes : Nat
  content : List Char
  /-- What follows the bracket. -/
  rest : List Char
  deriving Repr, DecidableEq

namespace Bracket

/-- The character may begin what a bracket names. -/
def isFirst (character : Char) : Bool :=
  ('a' ≤ character && character ≤ 'z') || character ∈ ['#', '/', '@']

/-- The bracket that a text begins with, after an opening bracket. -/
def ofContent? (slashes : Nat) : List Char → Option Bracket
  | [] => none
  | first :: text =>
    let others := text.takeWhile fun character => character ≠ '[' && character ≠ ']'
    match isFirst first, Text.after? (others ++ [']']) text with
    | true, some rest => some ⟨slashes, first :: others, rest⟩
    | _, _ => none

/-- The bracket that a text begins with. -/
def of? (text : List Char) : Option Bracket :=
  let slashes := text.takeWhile (· = '\\')
  match Text.after? (slashes ++ ['[']) text with
  | some inside => ofContent? slashes.length inside
  | none => none

/-- A bracket takes up some of the text. -/
theorem rest_length_lt {text : List Char} {bracket : Bracket} (found : of? text = some bracket) :
    bracket.rest.length < text.length := by
  unfold of? at found
  dsimp only at found
  split at found
  · rename_i inside opened
    have whole := Text.after?_eq_some_iff.mp opened
    unfold ofContent? at found
    split at found
    · simp at found
    · rename_i first rest
      dsimp only at found
      split at found
      · rename_i remaining _ closed
        have inner := Text.after?_eq_some_iff.mp closed
        simp only [Option.some.injEq] at found
        subst found
        have lengths := congrArg List.length whole
        have innerLengths := congrArg List.length inner
        simp only [List.length_append, List.length_cons, List.length_nil] at lengths innerLengths
        simp only
        omega
      · simp at found
  · simp at found

/-- The name of the style, which ends at an equals sign. -/
def name (bracket : Bracket) : List Char := bracket.content.takeWhile (· ≠ '=')

/-- The parts that a bracket makes. -/
def parts (bracket : Bracket) : List Part :=
  let halved := List.replicate (bracket.slashes / 2) '\\'
  let slashes := if halved.isEmpty then [] else [Part.escaped halved]
  if bracket.slashes % 2 = 1 then slashes ++ [.escaped ('[' :: bracket.content ++ [']'])]
  else slashes ++ [.tag bracket.name]

end Bracket

/-- The parts with one more plain character in front. -/
def addPlain (character : Char) : List Part → List Part
  | .plain text :: rest => .plain (character :: text) :: rest
  | others => .plain [character] :: others

/-- The parts of a text with styles. -/
def partsOf (text : List Char) : List Part :=
  match _found : Bracket.of? text with
  | some bracket => bracket.parts ++ partsOf bracket.rest
  | none =>
    match text with
    | [] => []
    | character :: rest => addPlain character (partsOf rest)
termination_by text.length
decreasing_by
  · exact Bracket.rest_length_lt _found
  · simp

/-- A text in which each backslash in front of a bracket is left out. -/
def unescaped : List Char → List Char
  | '\\' :: '[' :: rest => '[' :: unescaped rest
  | character :: rest => character :: unescaped rest
  | [] => []

/-- The control characters that are never printed: the bell, the backspace, the vertical tab,
    the form feed and the carriage return. -/
def isSilent (character : Char) : Bool := character.toNat ∈ [7, 8, 11, 12, 13]

/-- The characters of a part as they are printed. -/
def printed (text : List Char) : List Char :=
  (replaceSymbols (unescaped text)).filter fun character => !isSilent character

/-- What parts print while the given styles have begun, the last of them first. None if a
    style ends that has not begun. -/
def printedParts? (begun : List (List Char)) : List Part → Option (List Char)
  | [] => some []
  | .plain text :: rest | .escaped text :: rest =>
    (printedParts? begun rest).map (printed text ++ ·)
  | .tag ('/' :: closed) :: rest =>
    match Text.trim closed, begun with
    | [], [] => none
    | [], _ :: others => printedParts? others rest
    | name, _ =>
      let ended := Style.plainName name
      if Text.isOneOf begun ended then printedParts? (begun.erase ended) rest else none
  | .tag name :: rest => printedParts? (Style.plainName name :: begun) rest

/-- What a text with styles prints. None if a style ends that has not begun. -/
def printed? (text : List Char) : Option (List Char) := printedParts? [] (partsOf text)

end LintReview.Console
