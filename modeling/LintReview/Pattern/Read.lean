import LintReview.Pattern.Match
import LintReview.Pattern.Token

/-!
# Reading a pattern

A written pattern is read from left to right with a stack of open parentheses. Each level
of the stack keeps the parts that stand in a row so far and the alternatives in front of
them; a closing parenthesis puts the level together into one part of the level below.
-/

namespace LintReview.Pattern

/-- How a pattern is to be read and matched. -/
structure Mode where
  ignoreCase : Bool
  /-- Places at the ends are those of lines. -/
  byLine : Bool
  /-- The dot takes a newline too. -/
  dotAll : Bool
  /-- Blanks and remarks in the pattern do not count. -/
  spaced : Bool
  /-- Kinds of characters take English characters only. -/
  asciiOnly : Bool
  deriving Repr, DecidableEq

/-- How letters are compared in a mode. -/
def Mode.folding (mode : Mode) : Folding :=
  if !mode.ignoreCase then .exact else if mode.asciiOnly then .ascii else .full

/-- A set of characters in a mode. -/
def Mode.set (mode : Mode) (negated : Bool) (items : List Item) : Node :=
  .one ⟨negated, items, mode.folding, mode.asciiOnly⟩

/-- What a parenthesis opens. -/
inductive Opening where
  /-- The whole pattern, which no parenthesis opens. -/
  | whole
  /-- A group, remembered under a number if it has one. -/
  | group (number : Option Nat)
  | atomic
  | ahead (negated : Bool)
  /-- A look at what is in front; the outermost one says how many groups there were. -/
  | behind (negated : Bool) (outermost : Bool)
  /-- The first part of a conditional. -/
  | present (number : Nat)
  /-- The second part of a conditional, with the first. -/
  | absent (number : Nat) (present : Node)
  deriving Repr, DecidableEq

/-- A level of the stack. -/
structure Level where
  opening : Opening
  mode : Mode
  /-- The alternatives before the last bar, the latest first. -/
  alternatives : List Node
  /-- The parts after the last bar, the latest first. -/
  parts : List Node
  deriving Repr, DecidableEq

/-- A level without parts. -/
def Level.opened (opening : Opening) (mode : Mode) : Level := ⟨opening, mode, [], []⟩

/-- The level with a further part. -/
def Level.add (level : Level) (part : Node) : Level :=
  { level with parts := part :: level.parts }

/-- The parts in a row since the last bar. -/
def Level.row (level : Level) : Node := .ofSequence level.parts.reverse

/-- The alternatives of a level. -/
def Level.node (level : Level) : Node := .ofChoices (level.row :: level.alternatives).reverse

/-- What is read of a pattern. -/
structure Reader where
  level : Level
  /-- The levels below. -/
  below : List Level
  /-- How many groups there are, the whole pattern included. -/
  groups : Nat
  /-- The widths of the closed groups. -/
  closed : List (Nat × Width)
  names : List (List Char × Nat)
  /-- The groups that a conditional asks for by number. -/
  asked : List Nat
  /-- How many groups there were in front of an open look at what is in front. -/
  lookLimit : Option Nat
  /-- The pattern asks for all letters, though it need not. -/
  allLetters : Bool
  /-- The pattern must not repeat anything. -/
  noRepetition : Bool
  /-- Some look at what is in front has no fixed width. -/
  variableLook : Bool
  deriving Repr, DecidableEq

/-- The reader before a pattern that ignores letter case. -/
def Reader.start : Reader where
  level := .opened .whole ⟨true, false, false, false, false⟩
  below := []
  groups := 1
  closed := []
  names := []
  asked := []
  lookLimit := none
  allLetters := false
  noRepetition := false
  variableLook := false

/-- The number from which on a number of repetitions is too large. -/
def repetitionLimit : Nat := 4294967295

/-- The reader with a further part on its level. -/
def Reader.add (reader : Reader) (part : Node) : Reader :=
  { reader with level := reader.level.add part }

/-- The reader with a level above its own. -/
def Reader.open (reader : Reader) (opening : Opening) (mode : Mode) : Reader :=
  { reader with level := .opened opening mode, below := reader.level :: reader.below }

/-- A group may be asked for here: it is closed where its text is asked for, and outside
    of an open look at what is in front. -/
def Reader.mayAsk (reader : Reader) (number : Nat) : Bool :=
  match reader.lookLimit with
  | none => true
  | some limit => (reader.closed.lookup number).isSome && number < limit

/-- The reader after a part that asks for the text of a group. -/
def Reader.addAgain (reader : Reader) (number : Nat) : Except Error Reader :=
  match reader.closed.lookup number with
  | none => .error .malformed
  | some width =>
    if reader.mayAsk number then .ok (reader.add (.again number width reader.level.mode.folding))
    else .error .malformed

/-- The place that a letter gives in a mode. -/
def anchorOf (mode : Mode) : Char → Anchor
  | 'A' => .front false
  | 'b' => .wordEdge mode.asciiOnly false
  | 'B' => .wordEdge mode.asciiOnly true
  | _ => .textEnd

/-- The reader after an escape. -/
def Reader.addEscape (reader : Reader) (letter : Char) (tokens : List Token) :
    Except Error (Reader × List Token) := do
  let mode := reader.level.mode
  let (escape, rest) ← Escape.read letter tokens
  match escape with
  | .item part => return (reader.add (mode.set false [part]), rest)
  | .anchor letter => return (reader.add (.anchor (anchorOf mode letter)), rest)
  | .group number => return (← reader.addAgain number, rest)

/-- The bounds of a repetition between braces, after the opening one. None if there are
    no bounds, so that the brace is a character. -/
def bounds? (tokens : List Token) :
    Option (Except Error (Nat × Option Nat) × List Token) :=
  match tokens with
  | .plain '\x7d' :: _ => none
  | _ =>
    let (low, rest) := takeDigits tokens
    let (high, rest) :=
      match rest with
      | .plain ',' :: rest => takeDigits rest
      | _ => (low, rest)
    match rest with
    | .plain '\x7d' :: rest => some (boundsOf low high, rest)
    | _ => none
where
  /-- The number of repetitions that digits give. -/
  bound (digits : List Char) : Except Error Nat := do
    let value ← (Text.readDigits digits).mapError .number
    if repetitionLimit ≤ value then throw .repetitions
    return value
  /-- The bounds that two runs of digits give. Without digits there is no bound. -/
  boundsOf (low high : List Char) : Except Error (Nat × Option Nat) := do
    let least ← if low.isEmpty then pure 0 else bound low
    if high.isEmpty then return (least, none)
    let most ← bound high
    if most < least then throw .malformed
    return (least, some most)

/-- The reader after its last part is repeated. -/
def Reader.addRepetition (reader : Reader) (least : Nat) (most : Option Nat)
    (tokens : List Token) : Except Error (Reader × List Token) :=
  let (greed, rest) : Greed × List Token :=
    match tokens with
    | .plain '?' :: rest => (.fewest, rest)
    | .plain '+' :: rest => (.possessive, rest)
    | _ => (.most, tokens)
  match reader.level.parts with
  | [] | .anchor _ :: _ | .repetition _ _ _ _ :: _ => .error .malformed
  | body :: others =>
    let part := Node.repetition greed least most body
    .ok ({ reader with level := { reader.level with parts := part :: others } }, rest)

/-- A letter or an underscore may begin a name. -/
def beginsName (character : Char) : Bool :=
  character = '_' || (Text.isAlphanumeric character && !Text.isDigit character)

/-- The text is a name of a group. -/
def isGroupName : List Char → Bool
  | [] => false
  | first :: rest => beginsName first && rest.all Text.isWordCharacter

/-- The reader after the parenthesis of a remembered group, with its name if it has one. -/
def Reader.openGroup (reader : Reader) (name : Option (List Char)) : Except Error Reader :=
  let number := reader.groups
  let opened := { reader.open (.group (some number)) reader.level.mode with groups := number + 1 }
  match name with
  | none => .ok opened
  | some name =>
    if !isGroupName name || (reader.names.lookup name).isSome then .error .malformed
    else .ok { opened with names := (name, number) :: reader.names }

/-- The reader after the parenthesis of a look at what is in front. -/
def Reader.openBehind (reader : Reader) (negated : Bool) : Reader :=
  let outermost := reader.lookLimit.isNone
  let opened := reader.open (.behind negated outermost) reader.level.mode
  if outermost then { opened with lookLimit := some reader.groups } else opened

/-- The letters of the modes. -/
def modeLetters : List Char := ['i', 'L', 'm', 's', 'x', 'a', 't', 'u']

/-- The letters of modes that say which letters count. -/
def letterModes : List Char := ['a', 'u']

/-- The mode with a letter's mode on or off. -/
def Mode.put (mode : Mode) (value : Bool) : Char → Mode
  | 'i' => { mode with ignoreCase := value }
  | 'm' => { mode with byLine := value }
  | 's' => { mode with dotAll := value }
  | 'x' => { mode with spaced := value }
  | 'a' => { mode with asciiOnly := true }
  | 'u' => { mode with asciiOnly := false }
  | _ => mode

/-- Takes letters of modes up to a plain character that is none. -/
def takeModes : List Token → List Char × List Token
  | .plain letter :: rest =>
    if letter ∈ modeLetters then
      let (letters, left) := takeModes rest
      (letter :: letters, left)
    else ([], .plain letter :: rest)
  | tokens => ([], tokens)

/-- The letters can be turned on together. -/
def areCompatible (letters : List Char) : Bool :=
  'L' ∉ letters && !('a' ∈ letters && 'u' ∈ letters)

/-- The reader after modes are set for the whole pattern. -/
def Reader.setModes (reader : Reader) (letters : List Char) : Except Error Reader :=
  let level := reader.level
  if level.opening = .whole && level.alternatives.isEmpty && level.parts.isEmpty then
    let mode := letters.foldl (fun mode letter =>
      if letter = 'u' then mode else mode.put true letter) level.mode
    .ok { reader with
      level := { level with mode := mode }
      allLetters := reader.allLetters || letters.contains 'u'
      noRepetition := reader.noRepetition || letters.contains 't' }
  else .error .malformed

/-- The reader after a parenthesis with letters of modes. -/
def Reader.openModes (reader : Reader) (tokens : List Token) :
    Except Error (Reader × List Token) :=
  let (on, rest) := takeModes tokens
  if !areCompatible on then .error .malformed
  else
    match rest with
    | .plain ')' :: rest =>
      if on.isEmpty then .error .malformed
      else (reader.setModes on).map fun changed => (changed, rest)
    | .plain ':' :: rest => opened on [] rest
    | .plain '-' :: rest =>
      let (off, rest) := takeModes rest
      match rest with
      | .plain ':' :: rest =>
        if off.isEmpty || off.any (· ∈ letterModes) || 'L' ∈ off then .error .malformed
        else opened on off rest
      | _ => .error .malformed
    | _ => .error .malformed
where
  /-- The reader with a group in which some modes are on and some off. -/
  opened (on off : List Char) (rest : List Token) : Except Error (Reader × List Token) :=
    if 't' ∈ on || 't' ∈ off || on.any (· ∈ off) then .error .malformed
    else
      let mode := on.foldl (fun mode letter => mode.put true letter) reader.level.mode
      let mode := off.foldl (fun mode letter => mode.put false letter) mode
      .ok (reader.open (.group none) mode, rest)

/-- The reader after the parenthesis of a conditional with the name or number of a group. -/
def Reader.openConditional (reader : Reader) (name : List Char) : Except Error Reader :=
  if isGroupName name then
    match reader.names.lookup name with
    | some number => opened number reader.asked
    | none => .error .malformed
  else
    match Text.readInteger name with
    | .ok value =>
      if value ≤ 0 then .error .malformed
      else opened value.toNat (value.toNat :: reader.asked)
    | .error _ => .error .malformed
where
  /-- The reader with the first part of a conditional open. -/
  opened (number : Nat) (asked : List Nat) : Except Error Reader :=
    if reader.mayAsk number then
      .ok { reader.open (.present number) reader.level.mode with asked := asked }
    else .error .malformed

/-- What follows a remark, which ends with a closing parenthesis. -/
def afterRemark? (tokens : List Token) : Option (List Token) :=
  (textUntil? ')' tokens).map Prod.snd

/-- The reader after an opening parenthesis. -/
def Reader.openParenthesis (reader : Reader) (tokens : List Token) :
    Except Error (Reader × List Token) :=
  let mode := reader.level.mode
  match tokens with
  | .plain '?' :: .plain ':' :: rest => .ok (reader.open (.group none) mode, rest)
  | .plain '?' :: .plain '>' :: rest => .ok (reader.open .atomic mode, rest)
  | .plain '?' :: .plain '=' :: rest => .ok (reader.open (.ahead false) mode, rest)
  | .plain '?' :: .plain '!' :: rest => .ok (reader.open (.ahead true) mode, rest)
  | .plain '?' :: .plain '<' :: .plain '=' :: rest => .ok (reader.openBehind false, rest)
  | .plain '?' :: .plain '<' :: .plain '!' :: rest => .ok (reader.openBehind true, rest)
  | .plain '?' :: .plain '#' :: rest =>
    match afterRemark? rest with
    | some rest => .ok (reader, rest)
    | none => .error .malformed
  | .plain '?' :: .plain 'P' :: .plain '<' :: rest =>
    match nameUntil? '>' rest with
    | some (name, rest) => (reader.openGroup (some name)).map fun opened => (opened, rest)
    | none => .error .malformed
  | .plain '?' :: .plain 'P' :: .plain '=' :: rest =>
    match nameUntil? ')' rest with
    | some (name, rest) =>
      match reader.names.lookup name with
      | some number => (reader.addAgain number).map fun added => (added, rest)
      | none => .error .malformed
    | none => .error .malformed
  | .plain '?' :: .plain '(' :: rest =>
    match nameUntil? ')' rest with
    | some (name, rest) => (reader.openConditional name).map fun opened => (opened, rest)
    | none => .error .malformed
  | .plain '?' :: rest => reader.openModes rest
  | _ => (reader.openGroup none).map fun opened => (opened, tokens)

/-- The part that a closed level gives. -/
def Level.part (level : Level) : Node :=
  let node := level.node
  match level.opening with
  | .whole => node
  | .group number => .group number node
  | .atomic => .atomic node
  | .ahead negated => .ahead negated node
  | .behind negated _ => .behind negated node.width.least node
  | .present number => .conditional number node .empty
  | .absent number present => .conditional number present node

/-- The width is one number that is not too large. -/
def Width.isFixed (width : Width) : Bool :=
  width.largest = some width.least && width.least ≤ repetitionLimit

/-- The reader after a closing parenthesis, if one is open. -/
def Reader.close? (reader : Reader) : Option Reader :=
  match reader.below with
  | [] => none
  | lower :: below =>
    let level := reader.level
    let closed := { reader with level := lower.add level.part, below := below }
    match level.opening with
    | .group (some number) =>
      some { closed with closed := (number, level.node.width) :: reader.closed }
    | .behind _ outermost =>
      some { closed with
        lookLimit := if outermost then none else reader.lookLimit
        variableLook := reader.variableLook || !level.node.width.isFixed }
    | _ => some closed

/-- The reader after a bar. A conditional has two parts at most. -/
def Reader.addBar (reader : Reader) : Except Error Reader :=
  let level := reader.level
  match level.opening with
  | .present number =>
    .ok { reader with level := .opened (.absent number level.row) level.mode }
  | .absent _ _ => .error .malformed
  | _ => .ok { reader with
      level := { level with alternatives := level.row :: level.alternatives, parts := [] } }

/-- A blank that does not count in a spaced pattern. -/
def isSpacing (character : Char) : Bool :=
  character ∈ [' ', '\t', '\n', '\r', '\x0b', '\x0c']

/-- The reader after a plain character that is no parenthesis and no bar. -/
def Reader.addPlain (reader : Reader) (character : Char) (tokens : List Token) :
    Except Error (Reader × List Token) :=
  let mode := reader.level.mode
  if mode.spaced && isSpacing character then .ok (reader, tokens)
  else if mode.spaced && character = '#' then
    .ok (reader, tokens.dropWhile (· ≠ .plain '\n') |>.drop 1)
  else
    match character with
    | '[' => do
      let (negated, items, rest) ← readSet tokens
      return (reader.add (mode.set negated items), rest)
    | '.' =>
      let excluded := if mode.dotAll then [] else [Item.single '\n'.toNat]
      .ok (reader.add (mode.set true excluded), tokens)
    | '^' => .ok (reader.add (.anchor (.front mode.byLine)), tokens)
    | '$' => .ok (reader.add (.anchor (.back mode.byLine)), tokens)
    | '?' => reader.addRepetition 0 (some 1) tokens
    | '*' => reader.addRepetition 0 none tokens
    | '+' => reader.addRepetition 1 none tokens
    | '\x7b' =>
      match bounds? tokens with
      | some (.ok (least, most), rest) => reader.addRepetition least most rest
      | some (.error problem, _) => .error problem
      | none => .ok (reader.add (mode.set false [.single character.toNat]), tokens)
    | _ => .ok (reader.add (mode.set false [.single character.toNat]), tokens)

/-- The whole pattern, once all of it is read. -/
def Reader.finish (reader : Reader) : Except Error Node :=
  if !reader.below.isEmpty then .error .malformed
  else if reader.allLetters && reader.level.mode.asciiOnly then .error .letters
  else
    let node := reader.level.node
    if reader.asked.any (reader.groups ≤ ·) || reader.variableLook ||
        (reader.noRepetition && node.hasRepetition) then .error .malformed
    else .ok node

/-- Reads a pattern to its end. Every step takes a character, so `fuel` need only be more
    than there are characters. -/
def Reader.run : Nat → Reader → List Token → Except Error Node
  | 0, _, _ => .error .malformed
  | _ + 1, reader, [] => reader.finish
  | fuel + 1, reader, .escaped letter :: rest => do
    let (next, left) ← reader.addEscape letter rest
    run fuel next left
  | fuel + 1, reader, .plain '(' :: rest => do
    let (next, left) ← reader.openParenthesis rest
    run fuel next left
  | fuel + 1, reader, .plain '|' :: rest => do
    run fuel (← reader.addBar) rest
  | fuel + 1, reader, .plain ')' :: rest =>
    match reader.close? with
    | some next => run fuel next rest
    | none =>
      if reader.allLetters && reader.level.mode.asciiOnly then .error .letters
      else .error .malformed
  | fuel + 1, reader, .plain character :: rest => do
    let (next, left) ← reader.addPlain character rest
    run fuel next left

/-- The pattern that a text describes, without regard to letter case. -/
def read (text : List Char) : Except Error Node :=
  match tokens? text with
  | none => .error .malformed
  | some tokens => Reader.start.run (tokens.length + 1) tokens

end LintReview.Pattern
