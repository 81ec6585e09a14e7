import LintReview.Yaml.Plain

/-!
# Quoted scalars

Between single quotes only the quote itself is special: it is written twice. Between
double quotes a backslash begins an escape, and one at the end of a line joins the line
with the next. Line breaks are folded as in plain scalars.
-/

namespace LintReview.Yaml

/-- The characters that a letter after a backslash stands for. -/
def escapeLetters : List (Char × Char) :=
  [('0', '\x00'), ('a', '\x07'), ('b', '\x08'), ('t', '\t'), ('\t', '\t'), ('n', '\n'),
   ('v', '\x0b'), ('f', '\x0c'), ('r', '\r'), ('e', '\x1b'), (' ', ' '), ('"', '"'),
   ('\\', '\\'), ('/', '/'), ('N', '\u0085'), ('_', '\u00a0'), ('L', '\u2028'), ('P', '\u2029')]

/-- How many hexadecimal digits follow a letter after a backslash. -/
def escapeWidth? (letter : Char) : Option Nat :=
  if letter = 'x' then some 2 else if letter = 'u' then some 4 else if letter = 'U' then some 8
  else none

/-- The value of a hexadecimal digit. -/
def hexDigit? (character : Char) : Option Nat :=
  if character.isDigit then some (character.toNat - 48)
  else if 'a' ≤ character && character ≤ 'f' then some (character.toNat - 87)
  else if 'A' ≤ character && character ≤ 'F' then some (character.toNat - 55)
  else none

/-- The number that exactly `count` hexadecimal digits at the front denote. -/
def hexNumber? (count : Nat) (text : List Char) : Option Nat :=
  let digits := (text.take count).filterMap hexDigit?
  if digits.length = count then some (digits.foldl (fun value digit => value * 16 + digit) 0)
  else none

/-- Why a scalar is not read. -/
inductive ScalarError where
  | malformed
  /-- An escape gives a number that no character has. -/
  | codePoint
  deriving Repr, DecidableEq

/-- A blank of a line. -/
def isLineBlank (character : Char) : Bool := character = ' ' || character = '\t'

/-- Reads breaks with the blanks of the lines between them. No document may start or end
    inside. At most `fuel` steps are made. -/
def quotedBreaks (cursor : Cursor) : Nat → Except ScalarError (List Char × Cursor)
  | 0 => .ok ([], cursor)
  | fuel + 1 =>
    if cursor.atDocumentMark then .error .malformed
    else
      let line := cursor.skipWhile isLineBlank
      match line.break? with
      | none => .ok ([], line)
      | some (found, after) =>
        match quotedBreaks after fuel with
        | .error problem => .error problem
        | .ok (others, ending) => .ok (found :: others, ending)

/-- The second half of a character that is given by two escapes: its code, where an escape
    with four digits for it comes next. -/
def lowHalf? (text : List Char) : Option Nat :=
  match text with
  | '\\' :: 'u' :: rest =>
    (hexNumber? 4 rest).filter fun code => 0xdc00 ≤ code && code ≤ 0xdfff
  | _ => none

/-- The character of a code, and how many further characters it takes. Two halves of a
    character are put together; a half alone gives the replacement character. -/
def escapedCharacter (code : Nat) (after : List Char) : Char × Nat :=
  if 0xd800 ≤ code && code ≤ 0xdbff then
    match lowHalf? after with
    | some low => (Char.ofNat (0x10000 + (code - 0xd800) * 0x400 + (low - 0xdc00)), 6)
    | none => ('\ufffd', 0)
  else if 0xdc00 ≤ code && code ≤ 0xdfff then ('\ufffd', 0)
  else (Char.ofNat code, 0)

/-- Reads the escape of which the backslash is already read. -/
def escape (cursor : Cursor) : Except ScalarError (List Char × Cursor) :=
  match cursor.peek with
  | none => .error .malformed
  | some letter =>
    match escapeLetters.lookup letter, escapeWidth? letter with
    | some value, _ => .ok ([value], cursor.next)
    | none, some width =>
      match hexNumber? width cursor.next.rest with
      | none => .error .malformed
      | some code =>
        if 0x10ffff < code then .error .codePoint
        else
          let after := cursor.next.skip width
          let (value, further) := escapedCharacter code after.rest
          .ok ([value], after.skip further)
    | none, none =>
      match cursor.break? with
      | none => .error .malformed
      | some (_, after) => quotedBreaks after (after.rest.length + 1)

/-- Reads the blanks and breaks at the place. -/
def quotedGap (cursor : Cursor) : Except ScalarError (List Char × Cursor) :=
  let (blanks, after) := cursor.span isLineBlank
  match after.break? with
  | none => if after.peek.isNone then .error .malformed else .ok (blanks, after)
  | some (first, afterBreak) =>
    match quotedBreaks afterBreak (afterBreak.rest.length + 1) with
    | .error problem => .error problem
    | .ok (others, ending) => .ok (foldedBreaks first others, ending)

/-- Reads a quoted scalar up to its closing quote. At most `fuel` steps are made. -/
def quotedText (double : Bool) (cursor : Cursor) : Nat → Except ScalarError (List Char × Cursor)
  | 0 => .error .malformed
  | fuel + 1 =>
    let quote := if double then '"' else '\''
    let continueWith (front : List Char) (next : Cursor) :
        Except ScalarError (List Char × Cursor) :=
      match quotedText double next fuel with
      | .error problem => .error problem
      | .ok (others, ending) => .ok (front ++ others, ending)
    match cursor.peek with
    | none => .error .malformed
    | some character =>
      if character = quote then
        if !double && cursor.peekAt 1 = some quote then continueWith [quote] (cursor.skip 2)
        else .ok ([], cursor.next)
      else if double && character = '\\' then
        match escape cursor.next with
        | .error problem => .error problem
        | .ok (front, next) => continueWith front next
      else if isLineBlank character || isBreak character then
        match quotedGap cursor with
        | .error problem => .error problem
        | .ok (front, next) => continueWith front next
      else continueWith [character] cursor.next

/-- Reads a quoted scalar of which the opening quote is already read. -/
def quotedScalar (double : Bool) (cursor : Cursor) : Except ScalarError (List Char × Cursor) :=
  quotedText double cursor (cursor.rest.length + 1)

end LintReview.Yaml
