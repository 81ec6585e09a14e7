import LintReview.Yaml.Quoted
import LintReview.Text.Utf8

/-!
# Tags and directives

A tag names the type of a node: in full between angle brackets, or by a handle and a
suffix. A directive at the start of a document gives its version or declares a handle.
-/

namespace LintReview.Yaml

/-- A tag as it is written. Without a handle the suffix is the whole tag. -/
structure TagText where
  handle : Option (List Char)
  suffix : List Char
  deriving Repr, DecidableEq

/-- A directive. -/
inductive Directive where
  /-- The version, by its first number. -/
  | version (major : Nat)
  | handle (name : List Char) (meaning : List Char)
  /-- A directive that says nothing here. -/
  | other
  deriving Repr, DecidableEq

/-- A character of a handle, an anchor or the name of a directive. -/
def isNameCharacter (character : Char) : Bool :=
  character.isAlphanum || character = '-' || character = '_'

/-- A character of a tag, the percent sign of an escape apart. -/
def isTagCharacter (character : Char) : Bool :=
  character.isAlphanum || character ∈ "-;/?:@&=+$,_.!~*'()[]".toList

/-- Reads the bytes that stand as escapes at the place. At most `fuel` are read. -/
def tagBytes (cursor : Cursor) : Nat → Option (List UInt8 × Cursor)
  | 0 => some ([], cursor)
  | fuel + 1 =>
    if cursor.peek ≠ some '%' then some ([], cursor)
    else
      match hexNumber? 2 cursor.next.rest with
      | none => none
      | some byte =>
        (tagBytes (cursor.skip 3) fuel).map fun (others, ending) =>
          (UInt8.ofNat byte :: others, ending)

/-- Reads the characters of a tag. At most `fuel` steps are made. -/
def tagCharacters (cursor : Cursor) : Nat → Option (List Char × Cursor)
  | 0 => some ([], cursor)
  | fuel + 1 =>
    match cursor.peek with
    | none => some ([], cursor)
    | some character =>
      if character = '%' then do
        let (bytes, after) ← tagBytes cursor (cursor.rest.length + 1)
        let front ← Text.decode? bytes
        let (others, ending) ← tagCharacters after fuel
        return (front ++ others, ending)
      else if isTagCharacter character then
        (tagCharacters cursor.next fuel).map fun (others, ending) => (character :: others, ending)
      else some ([], cursor)

/-- Reads the characters of a tag, of which there is at least one. -/
def tagUri (cursor : Cursor) : Option (List Char × Cursor) := do
  let (text, after) ← tagCharacters cursor (cursor.rest.length + 1)
  if after.index = cursor.index then none else some (text, after)

/-- Reads a handle: one exclamation mark, or a name between two. -/
def tagHandle (cursor : Cursor) : Option (List Char × Cursor) :=
  if cursor.peek ≠ some '!' then none
  else if cursor.peekAt 1 = some ' ' then some (['!'], cursor.next)
  else
    let (name, after) := cursor.next.span isNameCharacter
    if after.peek = some '!' then some ('!' :: name ++ ['!'], after.next) else none

/-- The tag that begins at the place has a second exclamation mark. -/
def hasHandle (cursor : Cursor) : Bool :=
  (cursor.next.rest.takeWhile fun character => !(character = ' ' || isBreak character)).contains '!'

/-- Reads a tag. -/
def tag (cursor : Cursor) : Option (TagText × Cursor) := do
  let (found, after) ←
    if cursor.peekAt 1 = some '<' then do
      let (suffix, after) ← tagUri (cursor.skip 2)
      if after.peek = some '>' then some (TagText.mk none suffix, after.next) else none
    else if atBlank (cursor.peekAt 1) then some (TagText.mk none ['!'], cursor.next)
    else do
      let (handle, afterHandle) ←
        if hasHandle cursor then tagHandle cursor else some (['!'], cursor.next)
      let (suffix, after) ← tagUri afterHandle
      some (TagText.mk (some handle) suffix, after)
  if atSpace after.peek then some (found, after) else none

/-- Reads the name of an anchor or an alias, of which the first character is already
    read. -/
def anchorName (cursor : Cursor) : Option (List Char × Cursor) :=
  let (name, after) := cursor.span isNameCharacter
  let mayFollow := atBlank after.peek
    || after.peek.any fun character => character ∈ ['?', ':', ',', ']', '}', '%', '@', '\x60']
  if name.isEmpty || !mayFollow then none else some (name, after)

/-- The number that decimal digits denote. -/
def decimalNumber (digits : List Char) : Nat :=
  digits.foldl (fun value digit => value * 10 + (digit.toNat - 48)) 0

/-- Reads the two numbers of a version. -/
def versionNumbers (cursor : Cursor) : Option (Nat × Cursor) :=
  let (major, afterMajor) := cursor.skipSpaces.span Char.isDigit
  let (minor, after) := afterMajor.next.span Char.isDigit
  if major.isEmpty || afterMajor.peek ≠ some '.' || minor.isEmpty || !atSpace after.peek then none
  else some (decimalNumber major, after)

/-- Reads a handle and what it stands for. -/
def handleMeaning (cursor : Cursor) : Option (Directive × Cursor) := do
  let (handle, afterHandle) ← tagHandle cursor.skipSpaces
  if afterHandle.peek ≠ some ' ' then none
  let (meaning, after) ← tagUri afterHandle.skipSpaces
  if atSpace after.peek then some (.handle handle meaning, after) else none

/-- Reads the rest of a directive's line. -/
def directiveEnd (cursor : Cursor) : Option Cursor :=
  let afterSpaces := cursor.skipSpaces
  let ending := if afterSpaces.peek = some '#' then afterSpaces.toBreak else afterSpaces
  if atBreak ending.peek then some ((ending.break?.map Prod.snd).getD ending) else none

/-- Reads a directive of which the percent sign is already read. -/
def directive (cursor : Cursor) : Option (Directive × Cursor) := do
  let (name, afterName) := cursor.span isNameCharacter
  if name.isEmpty || !atSpace afterName.peek then none
  let (found, after) ←
    if name = "YAML".toList then
      (versionNumbers afterName).map fun (major, ending) => (Directive.version major, ending)
    else if name = "TAG".toList then handleMeaning afterName
    else some (Directive.other, afterName.toBreak)
  return (found, ← directiveEnd after)

end LintReview.Yaml
