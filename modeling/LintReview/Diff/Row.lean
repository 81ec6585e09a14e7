import LintReview.Text.Blank
import LintReview.Text.Lead

/-!
# Rows of a diff outside hunks

Every line outside a hunk's body is of one of eleven sorts, told apart by how it begins.
`Row.ofLine` decides the sort; the rules are tried in the order of the constructors, so
a line that fits two of them is of the first. Lines hold their newline.
-/

namespace LintReview.Diff

open Text (after? digitsThen?)

/-- The sorts of lines outside a hunk's body. -/
inductive Row where
  /-- The line that opens a file's section, with the names on both sides. -/
  | opening (source target : List Char)
  /-- The file is new. -/
  | newFile
  /-- The file is deleted. -/
  | deletedFile
  /-- The name on the old side. -/
  | source (name : List Char)
  /-- The name on the new side. -/
  | target (name : List Char)
  /-- A hunk header: the digits of its four numbers, a length possibly left out, and its
      heading. -/
  | hunk (oldStart : List Char) (oldLines : Option (List Char)) (newStart : List Char)
      (newLines : Option (List Char)) (heading : List Char)
  /-- The marker that the line before has no newline. -/
  | unterminated
  /-- An empty line. -/
  | empty
  /-- A binary file differs; one name may stand for both sides. -/
  | binary (source target : List Char)
  /-- A binary patch follows. -/
  | binaryPatch
  /-- Any other line. -/
  | other
  deriving Repr, DecidableEq

/-- The cuts of a text at its spaces, from left to right. -/
def spaceCuts : List Char → List (List Char × List Char)
  | [] => []
  | character :: rest =>
    let later := (spaceCuts rest).map fun (left, right) => (character :: left, right)
    if character = ' ' then ([], rest) :: later else later

/-- The text up to the first tab or newline. -/
def fieldText (text : List Char) : List Char :=
  text.takeWhile fun character => character ≠ '\t' && character ≠ '\n'

/-- The name begins with the letter of the given side, after a quote or not, and goes on. -/
def onSide (side : Char) (name : List Char) : Bool :=
  match name with
  | '"' :: letter :: '/' :: _ :: _ => letter = side
  | letter :: '/' :: _ :: _ => letter = side
  | _ => false

/-- The name holds a scheme and goes on after it. -/
def hasScheme : List Char → Bool
  | [] => false
  | ':' :: '/' :: '/' :: _ :: _ => true
  | _ :: rest => hasScheme rest

/-- The names of an opening line. They are cut at the last space that leaves a name of
    each side; if there is none, at the last that leaves two names with a scheme; if there
    is none, at the last that leaves two names. -/
def openingNames? (text : List Char) : Option (List Char × List Char) :=
  let cuts := (spaceCuts (fieldText text)).reverse
  (cuts.find? fun (source, target) => onSide 'a' source && onSide 'b' target) <|>
    (cuts.find? fun (source, target) => hasScheme source && hasScheme target) <|>
    (cuts.find? fun (source, target) => !source.isEmpty && !target.isEmpty)

/-- The text is a number that ends the line. -/
def isModeNumber (text : List Char) : Bool :=
  let digits := text.takeWhile Text.isDigit
  let rest := text.dropWhile Text.isDigit
  !digits.isEmpty && (rest = [] || rest = ['\n'])

/-- A start, and possibly a comma and a length. -/
def extentThen? (text : List Char) : Option (List Char × Option (List Char) × List Char) := do
  let (start, rest) ← digitsThen? text
  match (after? [','] rest).bind digitsThen? with
  | some (length, remaining) => return (start, some length, remaining)
  | none => return (start, none, rest)

/-- A hunk header. -/
def hunkHeader? (line : List Char) : Option Row := do
  let (oldStart, oldLines, afterOld) ← extentThen? (← after? "@@ -".toList line)
  let (newStart, newLines, afterNew) ← extentThen? (← after? " +".toList afterOld)
  let rest ← after? " @@".toList afterNew
  let heading := ((after? [' '] rest).getD rest).takeWhile (· ≠ '\n')
  return .hunk oldStart oldLines newStart newLines heading

/-- The characters that a time after a tab is written with. -/
def isTimeCharacter (character : Char) : Bool :=
  Text.isBlank character || Text.isAsciiDigit character || character ∈ [':', '+', '-']

/-- The texts that may follow a name: the text itself, or, if it begins with a tab, what
    is left after a time, the longest time first. -/
def afterTime : List Char → List (List Char)
  | '\t' :: rest => dropTime rest
  | text => [text]
where
  dropTime : List Char → List (List Char)
    | [] => []
    | character :: rest =>
      if isTimeCharacter character then dropTime rest ++ [rest] else []

/-- The text goes on with the verdict on a binary file. -/
def isBinaryVerdict (text : List Char) : Bool :=
  (after? " differ".toList text).isSome || (after? " has changed".toList text).isSome

/-- The shortest name, the characters `read` included, that is followed by the verdict. -/
def binaryTarget? (read : List Char) : List Char → Option (List Char)
  | [] => none
  | character :: rest =>
    if character = '\t' then none
    else
      let name := read ++ [character]
      if (afterTime rest).any isBinaryVerdict then some name else binaryTarget? name rest

/-- The shortest first name, the characters `read` included, that is followed by a second
    name and the verdict, or by the verdict alone. -/
def binaryNames? (read : List Char) : List Char → Option (List Char × List Char)
  | [] => none
  | character :: rest =>
    if character = '\t' then none
    else
      let name := read ++ [character]
      let found := (afterTime rest).findSome? fun remaining =>
        match (after? " and ".toList remaining).bind (binaryTarget? []) with
        | some target => some (name, target)
        | none => if isBinaryVerdict remaining then some (name, name) else none
      found <|> binaryNames? name rest

/-- A notice about a binary file. -/
def binaryNotice? (line : List Char) : Option Row :=
  let text := after? "Binary files ".toList line <|> after? "Binary file ".toList line
  (text.bind (binaryNames? [])).map fun (old, new) => .binary old new

/-- The sort of a line. -/
def Row.ofLine (line : List Char) : Row :=
  match (after? "diff --git ".toList line).bind openingNames? with
  | some (old, new) => .opening old new
  | none =>
    if ((after? "new file mode ".toList line).map isModeNumber).getD false then .newFile
    else if ((after? "deleted file mode ".toList line).map isModeNumber).getD false then
      .deletedFile
    else
      match after? "--- ".toList line, after? "+++ ".toList line with
      | some name, _ => .source (fieldText name)
      | none, some name => .target (fieldText name)
      | none, none =>
        match hunkHeader? line with
        | some row => row
        | none =>
          if (after? "\\ No newline at end of file".toList line).isSome then .unterminated
          else if line = ['\n'] then .empty
          else
            match binaryNotice? line with
            | some row => row
            | none =>
              if (after? "GIT binary patch".toList line).isSome then .binaryPatch else .other

end LintReview.Diff
