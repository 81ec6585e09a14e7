/-!
# A place in a text

Scanning goes through a text with a cursor, which knows the text still to come and the
index, line and column of its first character. A byte order mark takes no column.
-/

namespace LintReview.Yaml

/-- A place in a text. -/
structure Cursor where
  rest : List Char
  index : Nat
  line : Nat
  column : Nat
  deriving Repr, DecidableEq

/-- The start of a text. -/
def Cursor.start (text : List Char) : Cursor := ⟨text, 0, 0, 0⟩

/-- A character that ends a line. -/
def isBreak (character : Char) : Bool :=
  character ∈ ['\r', '\n', '\u0085', '\u2028', '\u2029']

/-- The text ends here, or the line does. -/
def atBreak (next : Option Char) : Bool := next.all isBreak

/-- The text ends here, or a space or the end of the line comes. -/
def atSpace (next : Option Char) : Bool :=
  next.all fun character => character = ' ' || isBreak character

/-- The text ends here, or a space, a tab or the end of the line comes. -/
def atBlank (next : Option Char) : Bool :=
  next.all fun character => character = ' ' || character = '\t' || isBreak character

/-- The next character. -/
def Cursor.peek (cursor : Cursor) : Option Char := cursor.rest.head?

/-- The character after a number of others. -/
def Cursor.peekAt (cursor : Cursor) (count : Nat) : Option Char := cursor.rest[count]?

/-- The place after the next character. -/
def Cursor.next (cursor : Cursor) : Cursor :=
  match cursor.rest with
  | [] => cursor
  | character :: rest =>
    if isBreak character && !(character = '\r' && rest.head? = some '\n') then
      ⟨rest, cursor.index + 1, cursor.line + 1, 0⟩
    else
      let width := if character = '\ufeff' then 0 else 1
      ⟨rest, cursor.index + 1, cursor.line, cursor.column + width⟩

/-- The place after a number of characters. -/
def Cursor.skip (cursor : Cursor) : Nat → Cursor
  | 0 => cursor
  | count + 1 => cursor.next.skip count

/-- The characters that pass a test, and the place after them. -/
def Cursor.span (cursor : Cursor) (test : Char → Bool) : List Char × Cursor :=
  let taken := cursor.rest.takeWhile test
  (taken, cursor.skip taken.length)

/-- The place after the characters that pass a test. -/
def Cursor.skipWhile (cursor : Cursor) (test : Char → Bool) : Cursor :=
  (cursor.span test).2

/-- The place after spaces. -/
def Cursor.skipSpaces (cursor : Cursor) : Cursor := cursor.skipWhile (· = ' ')

/-- The place at the end of the line. -/
def Cursor.toBreak (cursor : Cursor) : Cursor := cursor.skipWhile (!isBreak ·)

/-- The break at the place, and the place after it. All breaks but the line and paragraph
    separators count as a line feed. -/
def Cursor.break? (cursor : Cursor) : Option (Char × Cursor) :=
  match cursor.rest with
  | '\r' :: '\n' :: _ => some ('\n', cursor.skip 2)
  | character :: _ =>
    if character = '\u2028' || character = '\u2029' then some (character, cursor.next)
    else if isBreak character then some ('\n', cursor.next)
    else none
  | [] => none

/-- A row of three characters that separates documents stands at the place. -/
def Cursor.atMarker (cursor : Cursor) (character : Char) : Bool :=
  cursor.rest.take 3 = List.replicate 3 character && atBlank (cursor.peekAt 3)

/-- A document starts or ends at the place. -/
def Cursor.atDocumentMark (cursor : Cursor) : Bool :=
  cursor.atMarker '-' || cursor.atMarker '.'

end LintReview.Yaml
