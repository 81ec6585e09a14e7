import LintReview.Markup.Tag

/-!
# Namespaces

A qualifier stands for a namespace, which an attribute of the element or of one around
it declares. A name without a qualifier is in the default namespace if it names an
element, and in none if it names an attribute. Two qualifiers and two namespaces are
reserved and cannot be bound to anything else.
-/

namespace LintReview.Markup

/-- A name with its namespace. -/
structure Name where
  space : Option (List Char)
  base : List Char
  deriving Repr, DecidableEq

/-- The name in characters, with the namespace between braces in front. -/
def Name.written (name : Name) : List Char :=
  match name.space with
  | some space => '\x7b' :: space ++ '\x7d' :: name.base
  | none => name.base

/-- A namespace that belongs to the language itself. -/
def reservedSpace (path : String) : List Char :=
  ("http:" ++ "//www.w3.org/" ++ path).toList

/-- The namespace of the qualifier `xml`. -/
def languageSpace : List Char := reservedSpace "XML/1998/namespace"

/-- The namespace of declarations. -/
def declarationSpace : List Char := reservedSpace "2000/xmlns/"

/-- The qualifier, and the name, of attributes that declare a namespace. -/
def declarator : List Char := "xmlns".toList

/-- Qualifiers with their namespaces, the innermost declaration first. -/
abbrev Bindings := List (Option (List Char) × List Char)

/-- What is bound before a document begins. -/
def Bindings.initial : Bindings := [(some "xml".toList, languageSpace)]

/-- The namespace of a qualifier. The default namespace may be declared empty, which
    takes it back. -/
def Bindings.find? (bindings : Bindings) (qualifier : Option (List Char)) : Option (List Char) :=
  match List.lookup qualifier bindings with
  | some [] => none
  | found => found

/-- The qualifier that an attribute declares: `some none` for the default. -/
def QualifiedName.declares? (name : QualifiedName) : Option (Option (List Char)) :=
  match name.qualifier with
  | none => if name.base = declarator then some none else none
  | some qualifier => if qualifier = declarator then some (some name.base) else none

/-- Checks that a qualifier may be bound to a namespace. -/
def checkBinding (qualifier : Option (List Char)) (space : List Char) : Except Cause Unit :=
  let forLanguage := qualifier = some "xml".toList
  if space.isEmpty && qualifier.isSome then .error .undeclaredQualifier
  else if qualifier = some declarator then .error .reservedDeclarator
  else if space.contains '\x7d' then .error .syntaxError
  else if forLanguage ∧ space ≠ languageSpace then .error .reservedQualifier
  else if ¬ forLanguage ∧ (space = languageSpace ∨ space = declarationSpace) then
    .error .reservedNamespace
  else .ok ()

/-- The name of an element. -/
def Bindings.elementName? (bindings : Bindings) (name : QualifiedName) : Option Name :=
  match name.qualifier with
  | none => some ⟨bindings.find? none, name.base⟩
  | some qualifier => (bindings.find? (some qualifier)).map fun space => ⟨some space, name.base⟩

/-- The name of an attribute. -/
def Bindings.attributeName? (bindings : Bindings) (name : QualifiedName) : Option Name :=
  match name.qualifier with
  | none => some ⟨none, name.base⟩
  | some qualifier => (bindings.find? (some qualifier)).map fun space => ⟨some space, name.base⟩

end LintReview.Markup
