import LintReview.Yaml.Plain
import LintReview.Yaml.Block
import LintReview.Yaml.Tag

/-!
# A document as tokens

A text is cut into tokens: scalars, marks, and the starts and ends of collections. In
block style a collection starts where the indentation grows and ends where it falls.

A simple key is not marked in front. Every token that can begin one is remembered, for
each level of brackets the last one; when a colon follows on the same line and within
1024 characters, the mark for the key is put in front of it after the fact.
-/

namespace LintReview.Yaml

/-- A token of a document. -/
inductive Token where
  | directive (found : Directive)
  | documentStart
  | documentEnd
  | blockSequenceStart
  | blockMappingStart
  | blockEnd
  | flowSequenceStart
  | flowSequenceEnd
  | flowMappingStart
  | flowMappingEnd
  | flowEntry
  | blockEntry
  | key
  | value
  | alias (name : List Char)
  | anchor (name : List Char)
  | tag (text : TagText)
  | scalar (plain : Bool) (text : List Char)
  deriving Repr, DecidableEq

/-- A place where a simple key may have begun. -/
structure SimpleKey where
  /-- How many tokens stand in front. -/
  position : Nat
  /-- Something else than a key cannot stand here. -/
  required : Bool
  index : Nat
  line : Nat
  column : Nat
  deriving Repr, DecidableEq

/-- What is known while a text is cut. -/
structure Scan where
  cursor : Cursor
  /-- The tokens so far, the last first. -/
  tokens : List Token := []
  /-- How many brackets are open. -/
  flow : Nat := 0
  indent : Int := -1
  /-- The indentations of the collections around. -/
  outer : List Int := []
  allowsKey : Bool := true
  /-- The possible simple keys, by level of brackets. -/
  keys : List (Nat × SimpleKey) := []

namespace Scan

/-- Adds a token. -/
def emit (scan : Scan) (token : Token) : Scan := { scan with tokens := token :: scan.tokens }

/-- Puts tokens in front of the one at a position. -/
def insert (scan : Scan) (position : Nat) (inserted : List Token) : Scan :=
  let later := scan.tokens.length - position
  { scan with
    tokens := scan.tokens.take later ++ inserted.reverse ++ scan.tokens.drop later }

/-- Inside brackets. -/
def inFlow (scan : Scan) : Bool := 0 < scan.flow

/-- The column of the cursor. -/
def column (scan : Scan) : Int := scan.cursor.column

/-- Forgets the possible key of this level. A key that is required must not be
    forgotten. -/
def dropKey (scan : Scan) : Option Scan :=
  match scan.keys.lookup scan.flow with
  | none => some scan
  | some key =>
    if key.required then none
    else some { scan with keys := scan.keys.filter (·.1 ≠ scan.flow) }

/-- The possible key is too far back. -/
def isStale (scan : Scan) (key : SimpleKey) : Bool :=
  key.line ≠ scan.cursor.line || 1024 < scan.cursor.index - key.index

/-- Forgets the possible keys that are too far back. -/
def dropStale (scan : Scan) : Option Scan :=
  if scan.keys.any fun entry => scan.isStale entry.2 && entry.2.required then none
  else some { scan with keys := scan.keys.filter fun entry => !scan.isStale entry.2 }

/-- Notes that a key may begin here. -/
def noteKey (scan : Scan) : Option Scan :=
  if !scan.allowsKey then some scan
  else do
    let required := !scan.inFlow && scan.indent = scan.column
    let scan ← scan.dropKey
    let cursor := scan.cursor
    let key : SimpleKey :=
      ⟨scan.tokens.length, required, cursor.index, cursor.line, cursor.column⟩
    return { scan with keys := (scan.flow, key) :: scan.keys }

/-- Ends the collections that are indented more than a column. -/
def unwindFrom (column : Int) (scan : Scan) : List Int → Scan
  | [] => scan
  | indent :: outer =>
    if column < scan.indent then
      unwindFrom column { scan.emit .blockEnd with indent, outer } outer
    else scan

/-- Ends the collections that are indented more than a column, outside brackets. -/
def unwind (scan : Scan) (column : Int) : Scan :=
  if scan.inFlow then scan else unwindFrom column scan scan.outer

/-- Starts a collection where the indentation grows: the state, and whether it did. -/
def grow (scan : Scan) (column : Int) : Scan × Bool :=
  if scan.indent < column then
    ({ scan with outer := scan.indent :: scan.outer, indent := column }, true)
  else (scan, false)

/-- The state after a number of characters. -/
def forward (scan : Scan) (count : Nat) : Scan := { scan with cursor := scan.cursor.skip count }

/-- Goes over blanks, comments and breaks to the next token. Outside brackets a key may
    begin on a new line. At most `fuel` lines are read. -/
def toToken (scan : Scan) : Nat → Scan
  | 0 => scan
  | fuel + 1 =>
    let afterSpaces := scan.cursor.skipSpaces
    let cursor := if afterSpaces.peek = some '#' then afterSpaces.toBreak else afterSpaces
    match cursor.break? with
    | none => { scan with cursor }
    | some (_, after) =>
      toToken { scan with cursor := after, allowsKey := scan.allowsKey || !scan.inFlow } fuel

/-- Takes up the opening of brackets. -/
def openFlow (scan : Scan) (token : Token) : Option Scan := do
  let scan ← scan.noteKey
  return { scan.emit token with flow := scan.flow + 1, allowsKey := true }.forward 1

/-- Takes up the closing of brackets. -/
def closeFlow (scan : Scan) (token : Token) : Option Scan := do
  let scan ← scan.dropKey
  return { scan.emit token with flow := scan.flow - 1, allowsKey := false }.forward 1

/-- Takes up the start or end of a document. -/
def documentMark (scan : Scan) (token : Token) : Option Scan := do
  let scan ← (scan.unwind (-1)).dropKey
  return { scan.emit token with allowsKey := false }.forward 3

/-- Takes up a mark that starts a collection if the indentation grows. -/
def startBlock (scan : Scan) (start : Token) : Option Scan :=
  if scan.inFlow then some scan
  else if !scan.allowsKey then none
  else
    let (grown, new) := scan.grow scan.column
    some (if new then grown.emit start else grown)

/-- Takes up a dash. -/
def blockEntry (scan : Scan) : Option Scan := do
  let scan ← (← scan.startBlock .blockSequenceStart).dropKey
  return { scan.emit .blockEntry with allowsKey := true }.forward 1

/-- Takes up a question mark. -/
def explicitKey (scan : Scan) : Option Scan := do
  let scan ← (← scan.startBlock .blockMappingStart).dropKey
  return { scan.emit .key with allowsKey := !scan.inFlow }.forward 1

/-- Marks the possible key of this level as a key. -/
def markKey (scan : Scan) (key : SimpleKey) : Scan :=
  let scan := { scan with keys := scan.keys.filter (·.1 ≠ scan.flow), allowsKey := false }
  if scan.inFlow then scan.insert key.position [.key]
  else
    let (grown, new) := scan.grow key.column
    grown.insert key.position (if new then [.blockMappingStart, .key] else [.key])

/-- Takes up a colon. -/
def valueMark (scan : Scan) : Option Scan := do
  let scan ←
    match scan.keys.lookup scan.flow with
    | some key => some (scan.markKey key)
    | none => do
      let scan ← scan.startBlock .blockMappingStart
      { scan with allowsKey := !scan.inFlow }.dropKey
  return (scan.emit .value).forward 1

/-- Takes up an anchor or an alias. -/
def anchorMark (scan : Scan) (token : List Char → Token) : Option Scan := do
  let scan ← scan.noteKey
  let (name, after) ← anchorName scan.cursor.next
  return { scan.emit (token name) with cursor := after, allowsKey := false }

/-- Takes up a tag. -/
def tagMark (scan : Scan) : Option Scan := do
  let scan ← scan.noteKey
  let (found, after) ← Yaml.tag scan.cursor
  return { scan.emit (.tag found) with cursor := after, allowsKey := false }

/-- Takes up a directive. -/
def directiveMark (scan : Scan) : Option Scan := do
  let scan ← (scan.unwind (-1)).dropKey
  let (found, after) ← Yaml.directive scan.cursor.next
  return { scan.emit (.directive found) with cursor := after, allowsKey := false }

/-- Takes up a block scalar. -/
def blockText (scan : Scan) (folded : Bool) : Option Scan := do
  let scan ← scan.dropKey
  let (text, after) ← blockScalar folded scan.indent scan.cursor.next
  return { scan.emit (.scalar false text) with cursor := after, allowsKey := true }

/-- Takes up a plain scalar. -/
def plainText (scan : Scan) : Option Scan := do
  let scan ← scan.noteKey
  let found := plainScalar scan.inFlow (scan.indent + 1) scan.cursor
  return { scan.emit (.scalar true found.text) with
    cursor := found.after, allowsKey := found.breaksLine }

/-- Takes up a quoted scalar. -/
def quotedText (scan : Scan) (double : Bool) : Except ScalarError Scan :=
  match scan.noteKey with
  | none => .error .malformed
  | some scan =>
    match quotedScalar double scan.cursor.next with
    | .error problem => .error problem
    | .ok (text, after) =>
      .ok { scan.emit (.scalar false text) with cursor := after, allowsKey := false }

/-- A plain scalar may begin with a character, before the given one. -/
def startsPlain (inFlow : Bool) (character : Char) (next : Option Char) : Bool :=
  !(atBlank (some character) || character ∈ "-?:,[]{}#&*!|>'\"%@\x60".toList)
    || (!atBlank next && (character = '-' || (!inFlow && (character = '?' || character = ':'))))

/-- A failure without a cause of its own. -/
def orMalformed (result : Option Scan) : Except ScalarError Scan :=
  match result with
  | some scan => .ok scan
  | none => .error .malformed

/-- Takes up the token that begins with the given character. -/
def take (scan : Scan) (character : Char) : Except ScalarError Scan :=
  let cursor := scan.cursor
  let atMark := atBlank (cursor.peekAt 1)
  if character = '%' && cursor.column = 0 then orMalformed scan.directiveMark
  else if cursor.column = 0 && cursor.atMarker '-' then
    orMalformed (scan.documentMark .documentStart)
  else if cursor.column = 0 && cursor.atMarker '.' then orMalformed (scan.documentMark .documentEnd)
  else if character = '[' then orMalformed (scan.openFlow .flowSequenceStart)
  else if character = '{' then orMalformed (scan.openFlow .flowMappingStart)
  else if character = ']' then orMalformed (scan.closeFlow .flowSequenceEnd)
  else if character = '}' then orMalformed (scan.closeFlow .flowMappingEnd)
  else if character = ',' then
    orMalformed (scan.dropKey.map fun scan =>
      { scan.emit .flowEntry with allowsKey := true }.forward 1)
  else if character = '-' && atMark then orMalformed scan.blockEntry
  else if character = '?' && (scan.inFlow || atMark) then orMalformed scan.explicitKey
  else if character = ':' && (scan.inFlow || atMark) then orMalformed scan.valueMark
  else if character = '*' then orMalformed (scan.anchorMark .alias)
  else if character = '&' then orMalformed (scan.anchorMark .anchor)
  else if character = '!' then orMalformed scan.tagMark
  else if character = '|' && !scan.inFlow then orMalformed (scan.blockText false)
  else if character = '>' && !scan.inFlow then orMalformed (scan.blockText true)
  else if character = '\'' then scan.quotedText false
  else if character = '"' then scan.quotedText true
  else if startsPlain scan.inFlow character (cursor.peekAt 1) then orMalformed scan.plainText
  else .error .malformed

/-- Cuts the rest of a text into tokens. At most `fuel` tokens are taken up. -/
def run (scan : Scan) : Nat → Except ScalarError (List Token)
  | 0 => .error .malformed
  | fuel + 1 =>
    match (scan.toToken (scan.cursor.rest.length + 1)).dropStale with
    | none => .error .malformed
    | some scan =>
      let scan := scan.unwind scan.column
      match scan.cursor.peek with
      | none =>
        match (scan.unwind (-1)).dropKey with
        | none => .error .malformed
        | some scan => .ok scan.tokens.reverse
      | some character =>
        match scan.take character with
        | .error problem => .error problem
        | .ok next => next.run fuel

end Scan

/-- A character that a document may hold. -/
def isPrintable (character : Char) : Bool :=
  let code := character.toNat
  code = 0x9 || code = 0xa || code = 0xd || (0x20 ≤ code && code ≤ 0x7e) || code = 0x85
    || (0xa0 ≤ code && code ≠ 0xfffe && code ≠ 0xffff)

/-- The tokens of a text. A byte order mark at the start is no part of it. -/
def tokens (text : List Char) : Except ScalarError (List Token) :=
  if text.all isPrintable then
    let start := Cursor.start text
    let cursor := if text.head? = some '\ufeff' then start.next else start
    Scan.run { cursor } (text.length + 2)
  else .error .malformed

end LintReview.Yaml
