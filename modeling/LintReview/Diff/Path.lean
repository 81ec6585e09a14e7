import LintReview.Text.Quoted
import LintReview.Text.Utf8
import LintReview.Text.CharacterName

/-!
# Paths in a diff

A diff names a file with a one-letter side in front, `a/` or `b/`, and puts a name with
special characters between double quotes. Inside the quotes a backslash begins an
escape, and what the escapes spell are the bytes of the path. `Path.read` undoes both.

The characters between the quotes are first spelled in ASCII, each other character by
its own escape. Escapes are then read from left to right by `unescape`, whose first
argument is the escape under way. The values must be bytes; together they are read as
UTF-8.
-/

namespace LintReview.Diff.Path

/-- Why a quoted path has no reading. -/
inductive Error where
  /-- An escape is incomplete, or names no character. -/
  | malformedEscape
  /-- An escape stands for a character that is no byte. -/
  | wideCharacter
  deriving Repr, DecidableEq

/-- A text in ASCII: every other character becomes a hexadecimal escape. -/
def spellAscii (text : List Char) : List Char :=
  text.flatMap fun character =>
    if character.toNat < 128 then [character] else Text.hexEscape character.toNat

/-- The escape under way. -/
inductive Pending where
  /-- No escape. -/
  | plain
  /-- The backslash was read. -/
  | backslash
  /-- Octal digits were read; `missing` more may follow. -/
  | octal (missing value : Nat)
  /-- Hexadecimal digits were read; `missing` more must follow. -/
  | hexadecimal (missing value : Nat)
  /-- The letter that announces a name was read. -/
  | announced
  /-- The characters of a name so far, the latest first. -/
  | name (characters : List Char)
  deriving Repr, DecidableEq

/-- The value of an octal digit. -/
def octalValue? (character : Char) : Option Nat :=
  if '0' ≤ character && character ≤ '7' then some (character.toNat - 48) else none

/-- The value of a hexadecimal digit of either case. -/
def hexValue? (character : Char) : Option Nat :=
  if '0' ≤ character && character ≤ '9' then some (character.toNat - 48)
  else if 'a' ≤ character && character ≤ 'f' then some (character.toNat - 87)
  else if 'A' ≤ character && character ≤ 'F' then some (character.toNat - 55)
  else none

/-- The control character that a letter after a backslash stands for. -/
def controlValue? : Char → Option Nat
  | 'a' => some 7
  | 'b' => some 8
  | 't' => some 9
  | 'n' => some 10
  | 'v' => some 11
  | 'f' => some 12
  | 'r' => some 13
  | _ => none

/-- The code points that a text with escapes spells. A backslash before a line feed
    spells nothing, one before a character that begins no escape spells itself. -/
def unescape : Pending → List Char → Option (List Nat)
  | .plain, [] => some []
  | .octal _ value, [] => some [value]
  | _, [] => none
  | .plain, character :: rest =>
    if character = '\\' then unescape .backslash rest
    else (character.toNat :: ·) <$> unescape .plain rest
  | .backslash, character :: rest =>
    if character = '\n' then unescape .plain rest
    else if character = '\\' || character = '\'' || character = '"' then
      (character.toNat :: ·) <$> unescape .plain rest
    else if character = 'x' then unescape (.hexadecimal 2 0) rest
    else if character = 'u' then unescape (.hexadecimal 4 0) rest
    else if character = 'U' then unescape (.hexadecimal 8 0) rest
    else if character = 'N' then unescape .announced rest
    else
      match octalValue? character, controlValue? character with
      | some digit, _ => unescape (.octal 2 digit) rest
      | none, some value => (value :: ·) <$> unescape .plain rest
      | none, none => (92 :: character.toNat :: ·) <$> unescape .plain rest
  | .octal missing value, character :: rest =>
    match missing, octalValue? character with
    | remaining + 1, some digit => unescape (.octal remaining (value * 8 + digit)) rest
    | _, _ =>
      if character = '\\' then (value :: ·) <$> unescape .backslash rest
      else (value :: character.toNat :: ·) <$> unescape .plain rest
  | .hexadecimal missing value, character :: rest =>
    match missing, hexValue? character with
    | remaining + 2, some digit => unescape (.hexadecimal (remaining + 1) (value * 16 + digit)) rest
    | 1, some digit =>
      let code := value * 16 + digit
      if code ≤ 0x10ffff then (code :: ·) <$> unescape .plain rest else none
    | _, _ => none
  | .announced, character :: rest =>
    if character = '{' then unescape (.name []) rest else none
  | .name characters, character :: rest =>
    if character = '}' then
      match Text.namedCharacter? characters.reverse with
      | some code => (code :: ·) <$> unescape .plain rest
      | none => none
    else unescape (.name (character :: characters)) rest

/-- The path that a name stands for: what is between the quotes, if there are any. -/
def unquote (name : List Char) : Except Error (List Char) :=
  if name.length < 2 || name.head? ≠ some '"' || name.getLast? ≠ some '"' then .ok name
  else
    match unescape .plain (spellAscii name.tail.dropLast) with
    | none => .error .malformedEscape
    | some codes =>
      if codes.all (· < 256) then .ok (Text.decodeReplacing (codes.map UInt8.ofNat))
      else .error .wideCharacter

/-- A path without the letter of its side. -/
def dropSide : List Char → List Char
  | 'a' :: '/' :: rest => rest
  | 'b' :: '/' :: rest => rest
  | path => path

/-- The path of a file from its name in a diff. -/
def read (name : List Char) : Except Error (List Char) :=
  dropSide <$> unquote name

end LintReview.Diff.Path
