import LintReview.Markup.Aside

/-!
# The declaration at the start

A document may begin with a declaration, an instruction that gives the version of the
language, then perhaps an encoding, then perhaps whether the document stands alone. Each
is a name, an equals sign and a quoted value of letters, digits, full stops, hyphens and
underscores, all within the first 128 code points.
-/

namespace LintReview.Markup.Prolog

/-- A character of a value in the declaration. -/
def isValueCharacter (character : Char) : Bool :=
  character.isAlphanum || character = '.' || character = '-' || character = '_'

/-- A character of a name in the declaration. -/
def isFieldCharacter (character : Char) : Bool :=
  character.toNat < 0x80 && character ≠ '=' && !isBlank character

/-- A field of the declaration, with the texts from its name and from its value on. -/
structure Field where
  name : List Char
  nameHere : List Char
  value : List Char
  valueHere : List Char
  deriving Repr, DecidableEq

/-- Reads the value of a field up to the given quote. -/
def fieldValue (name nameHere : List Char) (quote : Char) (text : List Char) :
    Except (List Char) (Field × List Char) :=
  match text.dropWhile isValueCharacter with
  | [] => .error []
  | character :: rest =>
    if character = quote then .ok (⟨name, nameHere, text.takeWhile isValueCharacter, text⟩, rest)
    else .error (character :: rest)

/-- Reads a field, with the blanks before it: none where the text ends. An error is the
    text from the place where the field goes wrong. -/
def field (text : List Char) : Except (List Char) (Option (Field × List Char)) :=
  match text with
  | [] => .ok none
  | first :: _ =>
    if !isBlank first then .error text
    else
      let start := text.dropWhile isBlank
      if start.isEmpty then .ok none
      else
        let name := start.takeWhile isFieldCharacter
        let afterName := start.dropWhile isFieldCharacter
        match afterName.dropWhile isBlank with
        | '=' :: rest =>
          if name.isEmpty then .error start
          else
            match rest.dropWhile isBlank with
            | '"' :: value => (fieldValue name start '"' value).map some
            | '\'' :: value => (fieldValue name start '\'' value).map some
            | here => .error here
        | here => .error here

/-- Reads whether the document stands alone, and the end of the declaration. -/
def standaloneField (found : Field) (rest : List Char) : Except (List Char) Bool :=
  if found.name ≠ "standalone".toList then .error found.nameHere
  else if found.value ≠ "yes".toList && found.value ≠ "no".toList then .error found.valueHere
  else
    match rest.dropWhile isBlank with
    | [] => .ok (found.value = "yes".toList)
    | here => .error here

/-- Reads the fields after the version. -/
def laterFields (text : List Char) : Except (List Char) Bool :=
  match field text with
  | .error here => .error here
  | .ok none => .ok false
  | .ok (some (found, rest)) =>
    if found.name = "encoding".toList then
      if !found.value.head?.any Char.isAlpha then .error found.valueHere
      else
        match field rest with
        | .error here => .error here
        | .ok none => .ok false
        | .ok (some (last, ending)) => standaloneField last ending
    else standaloneField found rest

/-- Reads the text of the declaration: whether the document stands alone. -/
def standsAlone (text : List Char) : Except (List Char) Bool :=
  match field text with
  | .error here => .error here
  | .ok none => .error text
  | .ok (some (found, rest)) =>
    if found.name = "version".toList then laterFields rest else .error found.nameHere

end LintReview.Markup.Prolog
