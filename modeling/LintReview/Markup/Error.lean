import LintReview.Text.Utf8

/-!
# Errors of markup

A document is refused for a cause and at a place. While a document is read, a place is
the rest of the text that begins there; `place` turns it into a line, counted from one,
and a column, counted from zero in characters. A line feed, a carriage return and the
two together each end a line.
-/

namespace LintReview.Markup

/-- Why a document is refused. -/
inductive Cause where
  | syntaxError
  | noElement
  | invalidToken
  | unclosedToken
  | mismatchedTag
  | duplicateAttribute
  | junkAfterElement
  | parameterReference
  | undefinedEntity
  /-- An entity whose declaration may stand outside the document. -/
  | unknownEntity (name : List Char)
  | recursiveReference
  | asynchronousEntity
  | invalidCharacterNumber
  | binaryReference
  | externalReference
  | misplacedDeclaration
  | unclosedSection
  | unboundQualifier
  | undeclaredQualifier
  | malformedDeclaration
  | malformedPublicIdentifier
  | reservedQualifier
  | reservedDeclarator
  | reservedNamespace
  deriving Repr, DecidableEq

/-- The words for a cause. -/
def Cause.message : Cause → String
  | .syntaxError => "syntax error"
  | .noElement => "no element found"
  | .invalidToken => "not well-formed (invalid token)"
  | .unclosedToken => "unclosed token"
  | .mismatchedTag => "mismatched tag"
  | .duplicateAttribute => "duplicate attribute"
  | .junkAfterElement => "junk after document element"
  | .parameterReference => "illegal parameter entity reference"
  | .undefinedEntity => "undefined entity"
  | .unknownEntity name =>
    let shown := (Text.encode ('&' :: name ++ [';'])).take 100
    "undefined entity " ++ String.ofList (Text.decodeReplacing shown)
  | .recursiveReference => "recursive entity reference"
  | .asynchronousEntity => "asynchronous entity"
  | .invalidCharacterNumber => "reference to invalid character number"
  | .binaryReference => "reference to binary entity"
  | .externalReference => "reference to external entity in attribute"
  | .misplacedDeclaration => "XML or text declaration not at start of entity"
  | .unclosedSection => "unclosed CDATA section"
  | .unboundQualifier => "unbound prefix"
  | .undeclaredQualifier => "must not undeclare prefix"
  | .malformedDeclaration => "XML declaration not well-formed"
  | .malformedPublicIdentifier => "illegal character(s) in public id"
  | .reservedQualifier =>
    "reserved prefix (xml) must not be undeclared or bound to another namespace name"
  | .reservedDeclarator => "reserved prefix (xmlns) must not be declared or undeclared"
  | .reservedNamespace => "prefix must not be bound to one of the reserved namespace names"

/-- A refusal, and the rest of the text from the place where it happens. -/
structure Failure where
  cause : Cause
  here : List Char
  deriving Repr, DecidableEq

/-- A line, from one, and a column, from zero. -/
structure Place where
  line : Nat
  column : Nat
  deriving Repr, DecidableEq

/-- The place after some text that starts at the given place. -/
def Place.after (start : Place) : List Char → Place
  | [] => start
  | '\r' :: '\n' :: rest => Place.after ⟨start.line + 1, 0⟩ rest
  | character :: rest =>
    if character = '\n' || character = '\r' then Place.after ⟨start.line + 1, 0⟩ rest
    else Place.after ⟨start.line, start.column + 1⟩ rest

/-- Where in the whole text its given end begins. -/
def place (whole ending : List Char) : Place :=
  Place.after ⟨1, 0⟩ (whole.take (whole.length - ending.length))

/-- The refusal in words, with its place in the whole text. -/
def Failure.message (failure : Failure) (whole : List Char) : String :=
  let found := place whole failure.here
  s!"{failure.cause.message}: line {found.line}, column {found.column}"

end LintReview.Markup
