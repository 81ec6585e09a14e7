import LintReview.Yaml.Cursor

/-!
# Block scalars

A block scalar takes whole lines of a larger indentation. The literal kind keeps its line
breaks; the folded kind makes a break a space where it stands between two lines that both
begin with no blank. At the end the last break is kept, unless the indicator drops it, and
the empty lines after it are dropped, unless the indicator keeps them.
-/

namespace LintReview.Yaml

/-- What becomes of the breaks at the end. -/
inductive Chomping where
  /-- No break stays. -/
  | strip
  /-- The last line keeps its break. -/
  | clip
  /-- All breaks stay. -/
  | keep
  deriving Repr, DecidableEq

/-- What the indicators after the opening character say. -/
structure BlockHeader where
  chomping : Chomping
  /-- By how much the block is indented, if that is given. -/
  increment : Option Nat
  deriving Repr, DecidableEq

/-- Reads an indicator of chomping. -/
def chompingMark (cursor : Cursor) : Option (Chomping × Cursor) :=
  match cursor.peek with
  | some '+' => some (.keep, cursor.next)
  | some '-' => some (.strip, cursor.next)
  | _ => none

/-- Reads an indicator of indentation: a digit, and a digit that is zero is refused. -/
def incrementMark (cursor : Cursor) : Option (Option (Nat × Cursor)) :=
  match cursor.peek with
  | none => some none
  | some character =>
    if !character.isDigit then some none
    else if character = '0' then none
    else some (some (character.toNat - 48, cursor.next))

/-- Reads the indicators of a block scalar, in either order. -/
def blockHeader (cursor : Cursor) : Option (BlockHeader × Cursor) := do
  let (header, after) ←
    match chompingMark cursor with
    | some (chomping, next) => do
      match ← incrementMark next with
      | some (increment, ending) => some (BlockHeader.mk chomping (some increment), ending)
      | none => some (BlockHeader.mk chomping none, next)
    | none => do
      match ← incrementMark cursor with
      | some (increment, next) =>
        match chompingMark next with
        | some (chomping, ending) => some (BlockHeader.mk chomping (some increment), ending)
        | none => some (BlockHeader.mk .clip (some increment), next)
      | none => some (BlockHeader.mk .clip none, cursor)
  if atSpace after.peek then some (header, after) else none

/-- Reads the rest of a line that may hold spaces and a comment, and its break. -/
def ignoredLine (cursor : Cursor) : Option Cursor :=
  let afterSpaces := cursor.skipSpaces
  let ending := if afterSpaces.peek = some '#' then afterSpaces.toBreak else afterSpaces
  match ending.break? with
  | some (_, after) => some after
  | none => if ending.peek.isNone then some ending else none

/-- Reads empty lines and the spaces before the first line that is not: the breaks, and
    the largest column reached. At most `fuel` steps are made. -/
def leadingLines (cursor : Cursor) (largest : Nat) : Nat → List Char × Nat × Cursor
  | 0 => ([], largest, cursor)
  | fuel + 1 =>
    if cursor.peek = some ' ' then leadingLines cursor.next (max largest cursor.next.column) fuel
    else
      match cursor.break? with
      | none => ([], largest, cursor)
      | some (found, after) =>
        let (others, column, ending) := leadingLines after largest fuel
        (found :: others, column, ending)

/-- Goes over spaces, at most up to a column. -/
def skipIndent (indent : Nat) (cursor : Cursor) : Cursor :=
  cursor.skip ((cursor.rest.takeWhile (· = ' ')).length.min (indent - cursor.column))

/-- Reads breaks, and the indentation of the lines after them. At most `fuel` steps are
    made. -/
def indentedBreaks (indent : Nat) (cursor : Cursor) : Nat → List Char × Cursor
  | 0 => ([], cursor)
  | fuel + 1 =>
    let line := skipIndent indent cursor
    match line.break? with
    | none => ([], line)
    | some (found, after) =>
      let (others, ending) := indentedBreaks indent after fuel
      (found :: others, ending)

/-- The text of a block, and the breaks at its end: that of the last line, and those of
    the empty lines after it. -/
structure BlockText where
  text : List Char
  lastBreak : List Char
  emptyLines : List Char
  after : Cursor

/-- A blank comes next. -/
def startsBlank (cursor : Cursor) : Bool :=
  cursor.peek.any fun character => character = ' ' || character = '\t'

/-- Reads lines of a block. `sofar` ends with the indentation of the line to be read. At
    most `fuel` lines are read. -/
def blockLines (folded : Bool) (indent : Nat) (sofar : BlockText) : Nat → BlockText
  | 0 => sofar
  | fuel + 1 =>
    let cursor := sofar.after
    if cursor.column ≠ indent || cursor.peek.isNone then sofar
    else
      let beginsBlank := startsBlank cursor
      let (line, atEnd) := cursor.span (!isBreak ·)
      let (lastBreak, afterBreak) :=
        match atEnd.break? with
        | some (found, after) => ([found], after)
        | none => ([], atEnd)
      let (empty, next) := indentedBreaks indent afterBreak (afterBreak.rest.length + 1)
      let text := sofar.text ++ sofar.emptyLines ++ line
      if next.column = indent && next.peek.isSome then
        let joint :=
          if folded && lastBreak = ['\n'] && !beginsBlank && !startsBlank next then
            if empty.isEmpty then [' '] else []
          else lastBreak
        blockLines folded indent ⟨text ++ joint, [], empty, next⟩ fuel
      else ⟨text, lastBreak, empty, next⟩

/-- Reads a block scalar of which the opening character is already read. `outer` is the
    indentation of the collection around it. -/
def blockScalar (folded : Bool) (outer : Int) (cursor : Cursor) : Option (List Char × Cursor) := do
  let (header, afterHeader) ← blockHeader cursor
  let start ← ignoredLine afterHeader
  let least := (max 1 (outer + 1)).toNat
  let fuel := start.rest.length + 1
  let (empty, indent, first) :=
    match header.increment with
    | none =>
      let (empty, largest, first) := leadingLines start 0 fuel
      (empty, max least largest, first)
    | some increment =>
      let indent := least + increment - 1
      let (empty, first) := indentedBreaks indent start fuel
      (empty, indent, first)
  let found := blockLines folded indent ⟨[], [], empty, first⟩ fuel
  let ending :=
    match header.chomping with
    | .strip => []
    | .clip => found.lastBreak
    | .keep => found.lastBreak ++ found.emptyLines
  return (found.text ++ ending, found.after)

end LintReview.Yaml
