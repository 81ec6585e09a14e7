import LintReview.Markup.Definitions
import LintReview.Markup.Token

/-!
# Elements

An element has a name, attributes, and a content of characters and elements in order.
Asides and the way a character was written leave no trace in it.
-/

namespace LintReview.Markup

/-- An attribute of an element. -/
abbrev Attribute := Name × List Char

/-- A part of an element's content. -/
inductive Node where
  | character (value : Char)
  | element (name : Name) (attributes : List Attribute) (content : List Node)

/-- The outermost element of a document. -/
structure Element where
  name : Name
  attributes : List Attribute
  content : List Node

/-- The elements directly inside, in order. -/
def Element.children (element : Element) : List Element :=
  element.content.filterMap fun
    | .character _ => none
    | .element name attributes content => some ⟨name, attributes, content⟩

/-- The characters before the first node that is none. -/
def leadingText : List Node → List Char
  | .character value :: rest => value :: leadingText rest
  | _ => []

/-- The value of an attribute without a namespace. -/
def Element.attribute? (element : Element) (base : String) : Option (List Char) :=
  element.attributes.lookup ⟨none, base.toList⟩

/-- An attribute whose namespace is still to be found. -/
structure Assignment where
  name : QualifiedName
  value : List Char
  deriving Repr, DecidableEq

/-- Checks an attribute that declares a namespace. -/
def Assignment.check (assignment : Assignment) (start : List Char) : Except Failure Unit :=
  match assignment.name.declares? with
  | none => .ok ()
  | some qualifier =>
    match checkBinding qualifier assignment.value with
    | .error cause => .error ⟨cause, start⟩
    | .ok () => .ok ()

/-- Evaluates the attributes of a tag that begins at `start`, after those that are
    `known`. No name may occur twice. -/
def Definitions.assignments (definitions : Definitions) (inside : List (List Char))
    (element start : List Char) (known : List Assignment) :
    List AttributeText → Except Failure (List Assignment)
  | [] => .ok known
  | entry :: rest => do
    if known.any (·.name = entry.name) then throw ⟨.duplicateAttribute, entry.here⟩
    let isText := ((definitions.attribute? element entry.name).map (·.isText)).getD true
    let value ← (definitions.value inside isText entry.value).mapError (·.failure start)
    let assignment : Assignment := ⟨entry.name, value⟩
    assignment.check start
    definitions.assignments inside element start (known ++ [assignment]) rest

/-- Adds the default values of attributes that the tag leaves out. -/
def addDefaults (element start : List Char) (known : List Assignment) :
    List AttributeDefinition → Except Failure (List Assignment)
  | [] => .ok known
  | definition :: rest =>
    match definition.value with
    | none => addDefaults element start known rest
    | some value =>
      if definition.element ≠ element || known.any (·.name = definition.name) then
        addDefaults element start known rest
      else do
        let assignment : Assignment := ⟨definition.name, value⟩
        assignment.check start
        addDefaults element start (known ++ [assignment]) rest

/-- The namespaces that attributes declare, the last first. -/
def declared (assignments : List Assignment) : Bindings :=
  (assignments.filterMap fun assignment =>
    assignment.name.declares?.map fun qualifier => (qualifier, assignment.value)).reverse

/-- Finds the names of the attributes that declare nothing, after those that are
    `known`. -/
def nameAttributes (bindings : Bindings) (start : List Char) (known : List Attribute) :
    List Assignment → Except Failure (List Attribute)
  | [] => .ok known
  | assignment :: rest =>
    if assignment.name.declares?.isSome then nameAttributes bindings start known rest
    else
      match bindings.attributeName? assignment.name with
      | none => .error ⟨.unboundQualifier, start⟩
      | some name =>
        if known.any (·.1 = name) then .error ⟨.duplicateAttribute, start⟩
        else nameAttributes bindings start (known ++ [(name, assignment.value)]) rest

/-- An element whose end tag is still to come. -/
structure Frame where
  written : List Char
  name : Name
  attributes : List Attribute
  bindings : Bindings
  /-- The content so far, the last first. -/
  content : List Node

/-- The element that a frame has become. -/
def Frame.element (frame : Frame) : Element :=
  ⟨frame.name, frame.attributes, frame.content.reverse⟩

/-- Puts a node at the end of a frame's content. -/
def Frame.add (frame : Frame) (node : Node) : Frame :=
  { frame with content := node :: frame.content }

/-- Opens an element inside the given bindings. -/
def Definitions.openElement (definitions : Definitions) (inside : List (List Char))
    (outer : Bindings) (start : List Char) (name : QualifiedName) (ending : TagEnd) :
    Except Failure Frame := do
  let element := name.written
  let given ← definitions.assignments inside element start [] ending.attributes
  let all ← addDefaults element start given definitions.attributes
  let bindings := declared all ++ outer
  let attributes ← nameAttributes bindings start [] all
  match bindings.elementName? name with
  | none => throw ⟨.unboundQualifier, start⟩
  | some found => return ⟨element, found, attributes, bindings, []⟩

end LintReview.Markup
