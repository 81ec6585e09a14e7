import LintReview.Markup.Namespace
import LintReview.Text.Lines
import LintReview.Text.OneOf

/-!
# Definitions of a document

A document may define entities, of which the first definition of a name holds, and
default values for the attributes of an element. If it refers to definitions elsewhere
and does not say that it stands alone, an unknown entity may be defined there.

The value of an attribute is its pieces with every reference replaced. In a value that
is not plain text, runs of spaces shrink to one and those at the ends go away.
-/

namespace LintReview.Markup

/-- What an entity stands for. -/
inductive Entity where
  | text (value : List Char)
  /-- The text stands outside the document. -/
  | external
  /-- The entity is no text. -/
  | unparsed
  deriving Repr, DecidableEq

/-- What a document says about an attribute of an element. -/
structure AttributeDefinition where
  element : List Char
  name : QualifiedName
  /-- The value is plain text. -/
  isText : Bool
  value : Option (List Char)
  deriving Repr, DecidableEq

/-- What a document defines before its element. -/
structure Definitions where
  entities : List (List Char × Entity) := []
  attributes : List AttributeDefinition := []
  /-- Definitions may stand outside the document. -/
  refersOutside : Bool := false
  standalone : Bool := false
  /-- Definitions are taken up. -/
  attentive : Bool := true
  deriving Repr, DecidableEq

/-- The entity of a name. -/
def Definitions.entity? (definitions : Definitions) (name : List Char) : Option Entity :=
  definitions.entities.lookup name

/-- An unknown entity is an error. -/
def Definitions.isComplete (definitions : Definitions) : Bool :=
  !definitions.refersOutside || definitions.standalone

/-- Defines an entity, unless the name is known already. -/
def Definitions.define (definitions : Definitions) (name : List Char) (entity : Entity) :
    Definitions :=
  if definitions.attentive && (predefined? name).isNone then
    { definitions with entities := definitions.entities ++ [(name, entity)] }
  else definitions

/-- What the document says about an attribute. The first definition holds. -/
def Definitions.attribute? (definitions : Definitions) (element : List Char)
    (name : QualifiedName) : Option AttributeDefinition :=
  definitions.attributes.find? fun known => known.element = element && known.name = name

/-- Why a value is refused, and where, unless that is where its tag begins. -/
structure ValueError where
  cause : Cause
  here : Option (List Char)
  deriving Repr, DecidableEq

/-- The failure of a value inside a tag. -/
def ValueError.failure (start : List Char) (problem : ValueError) : Failure :=
  ⟨problem.cause, problem.here.getD start⟩

/-- Replaces the references of a value. `inside` holds the names of the entities whose
    text is being read, and at most `depth` more are entered. -/
def Definitions.replace (definitions : Definitions) (depth : Nat) (inside : List (List Char)) :
    List Piece → Except ValueError (List Char)
  | [] => .ok []
  | .character value :: rest =>
    match definitions.replace depth inside rest with
    | .error problem => .error problem
    | .ok text => .ok (value :: text)
  | .reference (.number code) here :: rest =>
    match characterOfCode? code with
    | none => .error ⟨.invalidCharacterNumber, some here⟩
    | some value =>
      match definitions.replace depth inside rest with
      | .error problem => .error problem
      | .ok text => .ok (value :: text)
  | .reference (.entity name) here :: rest =>
    let replacement : Except ValueError (List Char) :=
      match predefined? name with
      | some value => .ok [value]
      | none =>
        match definitions.entity? name with
        | none => if definitions.isComplete then .error ⟨.undefinedEntity, none⟩ else .ok []
        | some entity =>
          if Text.isOneOf inside name then .error ⟨.recursiveReference, some here⟩
          else
            match entity, depth with
            | .unparsed, _ => .error ⟨.binaryReference, some here⟩
            | .external, _ => .error ⟨.externalReference, some here⟩
            | .text _, 0 => .error ⟨.recursiveReference, some here⟩
            | .text value, depth + 1 =>
              match pieces none value with
              | .error _ => .error ⟨.invalidToken, none⟩
              | .ok (inner, _) =>
                match definitions.replace depth (name :: inside) inner with
                | .error problem => .error ⟨problem.cause, none⟩
                | .ok text => .ok text
    match replacement with
    | .error problem => .error problem
    | .ok front =>
      match definitions.replace depth inside rest with
      | .error problem => .error problem
      | .ok text => .ok (front ++ text)
termination_by value => (depth, value.length)

/-- A value without spaces at its ends and with single spaces between its words. -/
def collapseSpaces (value : List Char) : List Char :=
  Text.join [' '] ((Text.split ' ' value).filter (· ≠ []))

/-- The value of an attribute, from its pieces. -/
def Definitions.value (definitions : Definitions) (inside : List (List Char)) (isText : Bool)
    (written : List Piece) : Except ValueError (List Char) :=
  (definitions.replace definitions.entities.length inside written).map fun value =>
    if isText then value else collapseSpaces value

end LintReview.Markup
