import LintReview.Pattern.Basic

/-!
# Matching

A pattern is matched from left to right, and what is to follow is passed along: a way of
matching a part counts only if the rest can be matched after it, otherwise the next way
is tried. A repetition goes round again only if the round before took a character, so
matching ends.
-/

namespace LintReview.Pattern

/-- How far a text is matched. -/
structure Progress where
  /-- The characters in front, the nearest first. -/
  before : List Char
  /-- The characters that follow. -/
  rest : List Char
  /-- The texts of the groups, the latest first. -/
  groups : List (Nat × List Char)
  deriving Repr, DecidableEq

/-- What is to follow a part. -/
abbrev Following := Progress → Option Progress

/-- What matches a part and then what follows. -/
abbrev Matcher := Following → Progress → Option Progress

/-- The start of a text. -/
def Progress.start (text : List Char) : Progress := ⟨[], text, []⟩

/-- The place lies between a word character and another. -/
def isWordEdge (asciiOnly : Bool) (before rest : List Char) : Bool :=
  before.head?.any (Category.word.holds asciiOnly) !=
    rest.head?.any (Category.word.holds asciiOnly)

/-- The place is of the kind. An empty text has no place at a word and none away from one. -/
def Anchor.holds (anchor : Anchor) (progress : Progress) : Bool :=
  match anchor with
  | .front byLine =>
    match progress.before with
    | [] => true
    | character :: _ => byLine && character = '\n'
  | .back byLine =>
    match progress.rest with
    | [] => true
    | character :: others => character = '\n' && (byLine || others.isEmpty)
  | .textEnd => progress.rest.isEmpty
  | .wordEdge asciiOnly negated =>
    !(progress.before.isEmpty && progress.rest.isEmpty) &&
      isWordEdge asciiOnly progress.before progress.rest != negated

/-- Matches a part a number of times. -/
def times (run : Matcher) : Nat → Matcher
  | 0, following, progress => following progress
  | count + 1, following, progress => run (times run count following) progress

/-- Matches a part as often as it can be, at most `room` times. `last` is how much of the
    text was left when the round before began. -/
def asOften (run : Matcher) (following : Following) : Nat → Option Nat → Following
  | 0, _, progress => following progress
  | room + 1, last, progress =>
    let left := progress.rest.length
    if last = some left then following progress
    else
      match run (asOften run following room (some left)) progress with
      | some found => some found
      | none => following progress

/-- Matches a part as seldom as it can be, at most `room` times. -/
def asSeldom (run : Matcher) (following : Following) : Nat → Option Nat → Following
  | 0, _, progress => following progress
  | room + 1, last, progress =>
    match following progress with
    | some found => some found
    | none =>
      let left := progress.rest.length
      if last = some left then none
      else run (asSeldom run following room (some left)) progress

/-- Matches a part as often as it can be, each time in its first way. -/
def inOneWay (run : Matcher) : Nat → Option Nat → Progress → Progress
  | 0, _, progress => progress
  | room + 1, last, progress =>
    let left := progress.rest.length
    if last = some left then progress
    else
      match run some progress with
      | some found => inOneWay run room (some left) found
      | none => progress

/-- How many rounds beyond the least a repetition can take. -/
def roomFor (least : Nat) (most : Option Nat) (progress : Progress) : Nat :=
  match most with
  | none => progress.rest.length + 1
  | some bound => min (bound - least) (progress.rest.length + 1)

/-- Matches a part repeatedly. -/
def repeatedly (run : Matcher) (greed : Greed) (least : Nat) (most : Option Nat) : Matcher :=
  fun following progress =>
    match greed with
    | .most => times run least (fun reached =>
        asOften run following (roomFor least most reached) none reached) progress
    | .fewest => times run least (fun reached =>
        asSeldom run following (roomFor least most reached) none reached) progress
    | .possessive =>
      match times (fun next reached => (run some reached).bind next) least some progress with
      | some reached => following (inOneWay run (roomFor least most reached) none reached)
      | none => none

/-- The text that lies between two states of progress. -/
def textBetween (opened closed : Progress) : List Char :=
  opened.rest.take (opened.rest.length - closed.rest.length)

/-- Goes back by a number of characters. -/
def Progress.back? (progress : Progress) : Nat → Option Progress
  | 0 => some progress
  | count + 1 =>
    match progress.before with
    | [] => none
    | character :: others =>
      Progress.back? { progress with before := others, rest := character :: progress.rest } count

/-- The two characters are the same where a group's text is asked for again. -/
def Folding.sameAgain (folding : Folding) (first second : Char) : Bool :=
  match folding with
  | .exact => first = second
  | .ascii => first.toLower = second.toLower
  | .full => Text.lower first = Text.lower second

/-- Goes forward over a text that was matched before. -/
def Progress.over? (folding : Folding) (progress : Progress) : List Char → Option Progress
  | [] => some progress
  | expected :: others =>
    match progress.rest with
    | [] => none
    | character :: rest =>
      if folding.sameAgain expected character then
        Progress.over? folding
          { progress with before := character :: progress.before, rest := rest }
          others
      else none

/-- Goes forward by a character of a set. -/
def Progress.take? (set : CharacterSet) (progress : Progress) : Option Progress :=
  match progress.rest with
  | [] => none
  | character :: rest =>
    if set.contains character then
      some { progress with before := character :: progress.before, rest := rest }
    else none

/-- Matches a pattern, and then what follows. -/
def Node.run : Node → Matcher
  | .empty, following, progress => following progress
  | .never, _, _ => none
  | .one set, following, progress => (progress.take? set).bind following
  | .anchor place, following, progress =>
    if place.holds progress then following progress else none
  | .sequence first second, following, progress => first.run (second.run following) progress
  | .choice first second, following, progress =>
    match first.run following progress with
    | some found => some found
    | none => second.run following progress
  | .repetition greed least most body, following, progress =>
    repeatedly body.run greed least most following progress
  | .group none body, following, progress => body.run following progress
  | .group (some number) body, following, progress =>
    body.run (fun closed =>
      following { closed with groups := (number, textBetween progress closed) :: closed.groups })
      progress
  | .atomic body, following, progress => (body.run some progress).bind following
  | .ahead negated body, following, progress =>
    match body.run some progress with
    | some found =>
      if negated then none else following { progress with groups := found.groups }
    | none => if negated then following progress else none
  | .behind negated width body, following, progress =>
    match (progress.back? width).bind (body.run some) with
    | some found =>
      if negated then none else following { progress with groups := found.groups }
    | none => if negated then following progress else none
  | .again number _ folding, following, progress =>
    match progress.groups.lookup number with
    | some text => (progress.over? folding text).bind following
    | none => none
  | .conditional number present absent, following, progress =>
    if (progress.groups.lookup number).isSome then present.run following progress
    else absent.run following progress

/-- What follows a pattern that is to match a whole text. -/
def atEnd : Following := fun progress => if progress.rest.isEmpty then some progress else none

/-- The pattern describes the text. -/
def Node.matchesAll (node : Node) (text : List Char) : Bool :=
  (node.run atEnd (.start text)).isSome

end LintReview.Pattern
