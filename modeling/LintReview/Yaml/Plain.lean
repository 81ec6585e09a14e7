import LintReview.Yaml.Cursor

/-!
# Plain scalars

A plain scalar is written without quotes and may go on over several lines. A single line
break in it is a space; of several, all but the first are kept. It ends before a comment,
before a colon that is followed by a blank, where the indentation falls, and inside
brackets also before the characters that have a meaning there.
-/

namespace LintReview.Yaml

/-- A character that ends a plain scalar inside brackets. -/
def isFlowMark (character : Char) : Bool := character ∈ [',', '?', '[', ']', '{', '}']

/-- A colon before the given character ends a plain scalar. -/
def endsPlain (inFlow : Bool) (next : Option Char) : Bool :=
  atBlank next || (inFlow && next.any fun character => character ∈ [',', '[', ']', '{', '}'])

/-- How many characters from the front belong to a plain scalar, on one line and without
    blanks. -/
def plainRun (inFlow : Bool) : List Char → Nat
  | [] => 0
  | character :: rest =>
    if atBlank (some character) || (character = ':' && endsPlain inFlow rest.head?)
        || (inFlow && isFlowMark character) then 0
    else plainRun inFlow rest + 1

/-- What stands between two runs of a plain scalar. -/
structure PlainGap where
  /-- The characters it gives; none where the scalar ends. -/
  text : List Char
  after : Cursor
  /-- The gap holds the end of a line. -/
  breaksLine : Bool

/-- Reads further breaks and the spaces of the lines between them: `none` for the text
    where a document ends. At most `fuel` steps are made. -/
def plainBreaks (cursor : Cursor) : Nat → Option (List Char) × Cursor
  | 0 => (some [], cursor)
  | fuel + 1 =>
    if cursor.peek = some ' ' then plainBreaks cursor.next fuel
    else
      match cursor.break? with
      | none => (some [], cursor)
      | some (found, after) =>
        if after.atDocumentMark then (none, after)
        else
          let (others, ending) := plainBreaks after fuel
          (others.map (found :: ·), ending)

/-- The characters that a first break and further ones give. -/
def foldedBreaks (first : Char) (others : List Char) : List Char :=
  if first ≠ '\n' then first :: others else if others.isEmpty then [' '] else others

/-- Reads what stands after a run of a plain scalar. -/
def plainGap (cursor : Cursor) : PlainGap :=
  let (spaces, afterSpaces) := cursor.span (· = ' ')
  match afterSpaces.break? with
  | none => ⟨spaces, afterSpaces, false⟩
  | some (first, after) =>
    if after.atDocumentMark then ⟨[], after, true⟩
    else
      match plainBreaks after (after.rest.length + 1) with
      | (none, ending) => ⟨[], ending, true⟩
      | (some others, ending) => ⟨foldedBreaks first others, ending, true⟩

/-- A scanned scalar. -/
structure Scanned where
  text : List Char
  after : Cursor
  /-- The end of a line was the last thing read. -/
  breaksLine : Bool

/-- Reads runs of a plain scalar. `gap` gives the characters since the last run. At most
    `fuel` runs are read. -/
def plainRuns (inFlow : Bool) (indent : Int) (gap : List Char) (sofar : Scanned) : Nat → Scanned
  | 0 => sofar
  | fuel + 1 =>
    let cursor := sofar.after
    let length := plainRun inFlow cursor.rest
    if cursor.peek = some '#' || length = 0 then sofar
    else
      let text := sofar.text ++ gap ++ cursor.rest.take length
      let found := plainGap (cursor.skip length)
      let next : Scanned := ⟨text, found.after, found.breaksLine⟩
      if found.text.isEmpty || found.after.peek = some '#'
          || (!inFlow && (found.after.column : Int) < indent) then next
      else plainRuns inFlow indent found.text next fuel

/-- Reads a plain scalar. `indent` is the least column of its further lines. -/
def plainScalar (inFlow : Bool) (indent : Int) (cursor : Cursor) : Scanned :=
  plainRuns inFlow indent [] ⟨[], cursor, false⟩ (cursor.rest.length + 1)

end LintReview.Yaml
