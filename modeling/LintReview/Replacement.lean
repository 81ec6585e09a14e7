import LintReview.Markup.Document
import LintReview.Text.Numeral

/-!
# Replacements

A formatter reports its changes as a document with the element `replacements`. Every
element `replacement` directly inside gives one change: the offset and the length of a
range of the file in bytes, and the text that takes its place. An empty element means
that the file is formatted already.
-/

namespace LintReview

/-- A range of a file, in bytes, and the text that replaces it. -/
structure Replacement where
  offset : Int
  length : Int
  text : String
  deriving Repr, DecidableEq

namespace Replacement

/-- Why a formatter's report is not read. -/
inductive Error where
  /-- The report is no document. -/
  | markup (failure : Markup.Failure) (whole : List Char)
  /-- The outermost element has another name. -/
  | root (name : Markup.Name)
  /-- An offset or a length is no integer. -/
  | number (cause : Text.NumeralError)

/-- The words for the refusal. -/
def Error.message (problem : Error) : String :=
  "Parse replacements xml failed: " ++
    match problem with
    | .markup failure whole => failure.message whole
    | .root name => s!"root element is <{String.ofList name.written}>, not <replacements>"
    | .number cause => s!"bad offset/length attribute: {cause.message}"

/-- The name of the element that lists the changes. -/
def listName : Markup.Name := ⟨none, "replacements".toList⟩

/-- The name of the element that gives one change. -/
def itemName : Markup.Name := ⟨none, "replacement".toList⟩

/-- The integer that an attribute of an element gives. A missing attribute is empty. -/
def integerOf (element : Markup.Element) (attributeName : String) : Except Error Int :=
  (Text.readInteger ((element.attribute? attributeName).getD [])).mapError .number

/-- The change that an element gives. -/
def ofElement (element : Markup.Element) : Except Error Replacement := do
  let offset ← integerOf element "offset"
  let length ← integerOf element "length"
  return ⟨offset, length, String.ofList (Markup.leadingText element.content)⟩

/-- The changes that a list gives, in the order of the document. -/
def ofList (element : Markup.Element) : Except Error (List Replacement) :=
  if element.name = listName then
    (element.children.filter (·.name = itemName)).mapM ofElement
  else .error (.root element.name)

/-- The changes that a formatter reports. -/
def ofReport (report : String) : Except Error (List Replacement) := do
  let element ← (Markup.read report.toList).mapError fun (failure, whole) => .markup failure whole
  ofList element

end Replacement

end LintReview
