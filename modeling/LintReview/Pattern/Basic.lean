import LintReview.Pattern.CharacterSet

/-!
# Patterns

A pattern describes texts. It is put together from sets of characters, places between
characters, sequences, choices, repetitions and groups, whose texts can be asked for
again. The width of a pattern bounds the length of the texts that it describes.
-/

namespace LintReview.Pattern

/-- A place between two characters. -/
inductive Anchor where
  /-- In front of the text or, by lines, after a newline. -/
  | front (byLine : Bool)
  /-- At the end of the text, or in front of a newline that ends it; by lines, in front
      of any newline. -/
  | back (byLine : Bool)
  /-- At the very end of the text. -/
  | textEnd
  /-- Between a word character and another one, or not so. -/
  | wordEdge (asciiOnly negated : Bool)
  deriving Repr, DecidableEq

/-- Which number of repetitions is tried first. -/
inductive Greed where
  | most
  | fewest
  /-- The largest number, and no other. -/
  | possessive
  deriving Repr, DecidableEq

/-- The least and the largest number of characters that something takes. -/
structure Width where
  least : Nat
  /-- None if there is no bound. -/
  largest : Option Nat
  deriving Repr, DecidableEq

/-- A description of texts. -/
inductive Node where
  /-- The empty text. -/
  | empty
  /-- No text. -/
  | never
  | one (set : CharacterSet)
  | anchor (place : Anchor)
  | sequence (first second : Node)
  | choice (first second : Node)
  | repetition (greed : Greed) (least : Nat) (most : Option Nat) (body : Node)
  /-- A part with parentheses around it. One with a number is remembered. -/
  | group (number : Option Nat) (body : Node)
  /-- A part that is not tried in a second way. -/
  | atomic (body : Node)
  /-- What follows begins with the part, or does not. -/
  | ahead (negated : Bool) (body : Node)
  /-- What is in front ends with the part, which has a fixed width, or does not. -/
  | behind (negated : Bool) (width : Nat) (body : Node)
  /-- The text of a group again. -/
  | again (number : Nat) (width : Width) (folding : Folding)
  /-- One of two parts, by whether a group has a text. -/
  | conditional (number : Nat) (present absent : Node)
  deriving Repr, DecidableEq

/-- The width of something that takes a fixed number of characters. -/
def Width.exactly (count : Nat) : Width := ⟨count, some count⟩

/-- The width of two things in a row. -/
def Width.add (first second : Width) : Width where
  least := first.least + second.least
  largest := do return (← first.largest) + (← second.largest)

/-- The width of one of two things. -/
def Width.either (first second : Width) : Width where
  least := min first.least second.least
  largest := do return max (← first.largest) (← second.largest)

/-- The width of a thing that is repeated. -/
def Width.times (least : Nat) (most : Option Nat) (width : Width) : Width where
  least := width.least * least
  largest :=
    if width.largest = some 0 || most = some 0 then some 0
    else do return (← width.largest) * (← most)

/-- The width of the texts of a pattern. -/
def Node.width : Node → Width
  | .empty | .anchor _ | .ahead _ _ | .behind _ _ _ => .exactly 0
  | .never => .exactly 0
  | .one _ => .exactly 1
  | .sequence first second => first.width.add second.width
  | .choice first second => first.width.either second.width
  | .repetition _ least most body => body.width.times least most
  | .group _ body | .atomic body => body.width
  | .again _ width _ => width
  | .conditional _ present absent => present.width.either absent.width

/-- The pattern holds a repetition. -/
def Node.hasRepetition : Node → Bool
  | .repetition _ _ _ _ => true
  | .empty | .never | .one _ | .anchor _ | .again _ _ _ => false
  | .sequence first second | .choice first second | .conditional _ first second =>
    first.hasRepetition || second.hasRepetition
  | .group _ body | .atomic body | .ahead _ body | .behind _ _ body => body.hasRepetition

/-- The parts one after the other. -/
def Node.ofSequence : List Node → Node
  | [] => .empty
  | [node] => node
  | node :: rest => .sequence node (ofSequence rest)

/-- One of the parts, tried in order. -/
def Node.ofChoices : List Node → Node
  | [] => .never
  | [node] => node
  | node :: rest => .choice node (ofChoices rest)

end LintReview.Pattern
