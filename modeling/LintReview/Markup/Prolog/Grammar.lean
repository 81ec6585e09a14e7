import LintReview.Markup.Definitions
import LintReview.Markup.Prolog.Token
import LintReview.Markup.Prolog.Version

/-!
# The grammar of the prolog

The tokens of the prolog are taken up one by one. `Awaiting` says what may come next;
`advance` moves on and notes what is defined. Blanks may stand between any two tokens. A
token that may not come is a syntax error where it begins.
-/

namespace LintReview.Markup.Prolog

/-- How the members of a group in a content model are joined. -/
inductive Connector where
  | sequence
  | choice
  deriving Repr, DecidableEq

/-- The attribute that is being defined. -/
structure AttributeHead where
  element : List Char
  name : QualifiedName
  isText : Bool
  deriving Repr, DecidableEq

/-- What may come next. The groups of a content model are the open ones, innermost
    first, each with its connector once that is known. -/
inductive Awaiting where
  /-- The very first token, where a declaration of the version may stand. -/
  | beginning
  | doctypeOrElement
  | doctypeName
  | doctypeIdentifier
  | doctypePublic
  | doctypeSystem
  | doctypeSubset
  | subset
  | doctypeEnd
  | elementOnly
  | entityName
  | parameterName
  | entityValue (name : List Char)
  | entityPublic (name : List Char)
  | entitySystem (name : List Char)
  | entityEnd (name : List Char)
  | entityNotation (name : List Char)
  | parameterValue
  | parameterPublic
  | parameterSystem
  | parameterEnd
  | notationName
  | notationKind
  | notationPublic
  | notationSystem
  | notationOptionalSystem
  | attributesOf
  | attributeName (element : List Char)
  | attributeType (element : List Char) (name : QualifiedName)
  | choiceValue (head : AttributeHead)
  | choiceNext (head : AttributeHead)
  | notationChoices (head : AttributeHead)
  | notationChoice (head : AttributeHead)
  | notationChoiceNext (head : AttributeHead)
  | attributeDefault (head : AttributeHead)
  | fixedDefault (head : AttributeHead)
  | modelOf
  | model
  | modelStart
  | mixedNext
  | mixedName
  | mixedMore
  | member (groups : List (Option Connector))
  | memberNext (groups : List (Option Connector))
  | declarationEnd
  deriving Repr, DecidableEq

/-- What is known and what may come next. -/
structure Progress where
  awaiting : Awaiting := .beginning
  definitions : Definitions := {}
  deriving Repr, DecidableEq

/-- The progress with another thing to come. -/
def Progress.to (progress : Progress) (awaiting : Awaiting) : Progress :=
  { progress with awaiting }

/-- A character of a public identifier. -/
def isPublicCharacter (character : Char) : Bool :=
  character.isAlphanum || character ∈ " \r\n-'()+,./:=?;!*#@$_%".toList

/-- Checks a public identifier. The literal starts at `here`. -/
def checkPublic (here : List Char) (identifier : List Char) : Except Failure Unit :=
  match identifier.dropWhile isPublicCharacter with
  | [] => .ok ()
  | _ => .error ⟨.malformedPublicIdentifier, (here.drop 1).dropWhile isPublicCharacter⟩

/-- The place in the document of an end of a literal's text. The literal begins at
    `here`, its opening quote included. -/
def placeInLiteral (here text ending : List Char) : List Char :=
  here.drop (1 + text.length - ending.length)

/-- Reads the text that an entity is given: numbers are replaced, references to entities
    stay, and every line end is a line feed. A failure holds an end of the text. -/
def entityText (text : List Char) : Except Failure (List Char) :=
  match text with
  | [] => .ok []
  | '\r' :: '\n' :: rest => (entityText rest).map ('\n' :: ·)
  | '&' :: rest =>
    match read : reference rest with
    | .error .ended => .error ⟨.invalidToken, '&' :: rest⟩
    | .error (.refused here) => .error ⟨.invalidToken, here⟩
    | .ok (target, after) =>
      have : after.length < rest.length := length_reference read
      match target with
      | .number code =>
        match characterOfCode? code with
        | none => .error ⟨.invalidCharacterNumber, '&' :: rest⟩
        | some value => (entityText after).map (value :: ·)
      | .entity name => (entityText after).map (('&' :: name ++ [';']) ++ ·)
  | '%' :: rest =>
    match afterPercent rest with
    | .ok (.parameter _, _) => .error ⟨.parameterReference, '%' :: rest⟩
    | .ok _ => .error ⟨.invalidToken, rest⟩
    | .error .ended => .error ⟨.invalidToken, '%' :: rest⟩
    | .error (.refused here) => .error ⟨.invalidToken, here⟩
  | character :: rest => (entityText rest).map ((if character = '\r' then '\n' else character) :: ·)
termination_by text.length

/-- The text from the last ampersand on. -/
def fromLastAmpersand (text : List Char) : List Char :=
  '&' :: (text.reverse.takeWhile (· ≠ '&')).reverse

/-- The definition of an attribute, unless the attribute is known. -/
def Progress.defineAttribute (progress : Progress) (head : AttributeHead)
    (value : Option (List Char)) : Progress :=
  let known := progress.definitions
  let next : Awaiting := .attributeName head.element
  if known.attentive && (known.attribute? head.element head.name).isNone then
    { awaiting := next
      definitions := { known with
        attributes := known.attributes ++ [⟨head.element, head.name, head.isText, value⟩] } }
  else progress.to next

/-- Defines an attribute with the default value that a literal gives. -/
def Progress.defaultAttribute (progress : Progress) (head : AttributeHead)
    (here text : List Char) : Except Failure Progress :=
  if !progress.definitions.attentive then .ok (progress.defineAttribute head none)
  else
    match pieces none text with
    | .error .ended => .error ⟨.invalidToken, placeInLiteral here text (fromLastAmpersand text)⟩
    | .error (.refused ending) => .error ⟨.invalidToken, placeInLiteral here text ending⟩
    | .ok (written, _) =>
      match progress.definitions.value [] head.isText written with
      | .error problem =>
        .error ⟨problem.cause, (problem.here.map (placeInLiteral here text)).getD here⟩
      | .ok value => .ok (progress.defineAttribute head (some value))

/-- Defines a general entity. -/
def Progress.defineEntity (progress : Progress) (name : List Char) (entity : Entity)
    (awaiting : Awaiting) : Progress :=
  { awaiting, definitions := progress.definitions.define name entity }

/-- Defines an entity by a literal. The name is `none` for a parameter entity, which is
    never used. -/
def Progress.textEntity (progress : Progress) (name : Option (List Char))
    (here text : List Char) : Except Failure Progress :=
  if !progress.definitions.attentive then .ok (progress.to .declarationEnd)
  else
    match entityText text, name with
    | .error failure, _ => .error ⟨failure.cause, placeInLiteral here text failure.here⟩
    | .ok _, none => .ok (progress.to .declarationEnd)
    | .ok value, some name => .ok (progress.defineEntity name (.text value) .declarationEnd)

/-- The keywords for the types of attributes. -/
def simpleTypes : List String :=
  ["CDATA", "ID", "IDREF", "IDREFS", "ENTITY", "ENTITIES", "NMTOKEN", "NMTOKENS"]

/-- Closes the innermost group of a content model. -/
def closeGroup (progress : Progress) : List (Option Connector) → Progress
  | _ :: outer =>
    if outer.isEmpty then progress.to .declarationEnd else progress.to (.memberNext outer)
  | [] => progress.to .declarationEnd

/-- Joins members of the innermost group. -/
def joinGroup (progress : Progress) (connector : Connector) :
    List (Option Connector) → Option Progress
  | known :: outer =>
    if known.all (· = connector) then some (progress.to (.member (some connector :: outer)))
    else none
  | [] => none

/-- A step of the grammar that defines nothing. -/
def Awaiting.next (awaiting : Awaiting) (token : Token) : Option Awaiting :=
  match awaiting, token with
  | .beginning, .comment | .beginning, .instruction _ => some .doctypeOrElement
  | .doctypeOrElement, .comment | .doctypeOrElement, .instruction _ => some .doctypeOrElement
  | .elementOnly, .comment | .elementOnly, .instruction _ => some .elementOnly
  | .subset, .comment | .subset, .instruction _ => some .subset
  | .beginning, .declaration keyword | .doctypeOrElement, .declaration keyword =>
    if keyword = "DOCTYPE".toList then some .doctypeName else none
  | .doctypeName, .word kind _ => if kind ≠ .token then some .doctypeIdentifier else none
  | .doctypeIdentifier, .mark '[' => some .subset
  | .doctypeIdentifier, .mark '>' => some .elementOnly
  | .doctypeIdentifier, .word .name written =>
    if written = "SYSTEM".toList then some .doctypeSystem
    else if written = "PUBLIC".toList then some .doctypePublic
    else none
  | .doctypeSubset, .mark '[' => some .subset
  | .doctypeSubset, .mark '>' => some .elementOnly
  | .doctypeEnd, .mark '>' => some .elementOnly
  | .subset, .mark ']' => some .doctypeEnd
  | .subset, .declaration keyword =>
    if keyword = "ENTITY".toList then some .entityName
    else if keyword = "ATTLIST".toList then some .attributesOf
    else if keyword = "ELEMENT".toList then some .modelOf
    else if keyword = "NOTATION".toList then some .notationName
    else none
  | .entityName, .mark '%' => some .parameterName
  | .entityName, .word .name name => some (.entityValue name)
  | .parameterName, .word .name _ => some .parameterValue
  | .entityValue name, .word .name written =>
    if written = "SYSTEM".toList then some (.entitySystem name)
    else if written = "PUBLIC".toList then some (.entityPublic name)
    else none
  | .entitySystem name, .literal _ => some (.entityEnd name)
  | .entityEnd name, .word .name written =>
    if written = "NDATA".toList then some (.entityNotation name) else none
  | .parameterValue, .word .name written =>
    if written = "SYSTEM".toList then some .parameterSystem
    else if written = "PUBLIC".toList then some .parameterPublic
    else none
  | .parameterSystem, .literal _ => some .parameterEnd
  | .parameterEnd, .mark '>' => some .subset
  | .notationName, .word .name _ => some .notationKind
  | .notationKind, .word .name written =>
    if written = "SYSTEM".toList then some .notationSystem
    else if written = "PUBLIC".toList then some .notationPublic
    else none
  | .notationSystem, .literal _ => some .declarationEnd
  | .notationOptionalSystem, .literal _ => some .declarationEnd
  | .notationOptionalSystem, .mark '>' => some .subset
  | .attributesOf, .word kind written =>
    if kind ≠ .token then some (.attributeName written) else none
  | .attributeName _, .mark '>' => some .subset
  | .attributeName element, .word kind written =>
    if kind ≠ .token then some (.attributeType element (QualifiedName.ofWritten written)) else none
  | .attributeType element name, .word .name written =>
    if written = "NOTATION".toList then some (.notationChoices ⟨element, name, false⟩)
    else if String.ofList written ∈ simpleTypes then
      some (.attributeDefault ⟨element, name, written = "CDATA".toList⟩)
    else none
  | .attributeType element name, .mark '(' => some (.choiceValue ⟨element, name, false⟩)
  | .choiceValue head, .word _ _ => some (.choiceNext head)
  | .choiceNext head, .mark ')' => some (.attributeDefault head)
  | .choiceNext head, .mark '|' => some (.choiceValue head)
  | .notationChoices head, .mark '(' => some (.notationChoice head)
  | .notationChoice head, .word .name _ => some (.notationChoiceNext head)
  | .notationChoiceNext head, .mark ')' => some (.attributeDefault head)
  | .notationChoiceNext head, .mark '|' => some (.notationChoice head)
  | .attributeDefault head, .keyword written =>
    if written = "FIXED".toList then some (.fixedDefault head) else none
  | .modelOf, .word kind _ => if kind ≠ .token then some .model else none
  | .model, .word .name written =>
    if written = "EMPTY".toList || written = "ANY".toList then some .declarationEnd else none
  | .model, .mark '(' => some .modelStart
  | .modelStart, .keyword written => if written = "PCDATA".toList then some .mixedNext else none
  | .modelStart, .mark '(' => some (.member [none, none])
  | .modelStart, .word kind _ => if kind ≠ .token then some (.memberNext [none]) else none
  | .modelStart, .repeated _ => some (.memberNext [none])
  | .mixedNext, .mark ')' => some .declarationEnd
  | .mixedNext, .repeatedGroup '*' => some .declarationEnd
  | .mixedNext, .mark '|' => some .mixedName
  | .mixedName, .word kind _ => if kind ≠ .token then some .mixedMore else none
  | .mixedMore, .repeatedGroup '*' => some .declarationEnd
  | .mixedMore, .mark '|' => some .mixedName
  | .member groups, .mark '(' => some (.member (none :: groups))
  | .member groups, .word kind _ => if kind ≠ .token then some (.memberNext groups) else none
  | .member groups, .repeated _ => some (.memberNext groups)
  | .declarationEnd, .mark '>' => some .subset
  | _, _ => none

/-- The failure of a token that may not come. -/
def unexpected (lexeme : Lexeme) : Failure :=
  match lexeme.token with
  | .parameter _ => ⟨.parameterReference, lexeme.here⟩
  | .instruction found =>
    ⟨if found.isDeclaration then .misplacedDeclaration else .syntaxError, lexeme.here⟩
  | _ => ⟨.syntaxError, lexeme.here⟩

/-- The document refers to definitions outside. -/
def Progress.outside (progress : Progress) (awaiting : Awaiting) : Progress :=
  { awaiting, definitions := { progress.definitions with refersOutside := true } }

/-- Takes up one token. -/
def advance (progress : Progress) (lexeme : Lexeme) : Except Failure Progress :=
  match progress.awaiting, lexeme.token with
  | .beginning, .blank => .ok (progress.to .doctypeOrElement)
  | _, .blank => .ok progress
  | awaiting, .instruction found =>
    if found.isDeclaration then
      if awaiting = .beginning then
        match standsAlone found.body with
        | .error rest =>
          .error ⟨.malformedDeclaration, lexeme.here.drop (5 + found.body.length - rest.length)⟩
        | .ok standalone =>
          .ok { awaiting := .doctypeOrElement
                definitions := { progress.definitions with standalone } }
      else .error (unexpected lexeme)
    else
      match awaiting.next lexeme.token with
      | some next => .ok (progress.to next)
      | none => .error (unexpected lexeme)
  | .doctypePublic, .literal text => do
    checkPublic lexeme.here text
    return progress.outside .doctypeSystem
  | .doctypeSystem, .literal _ => .ok (progress.outside .doctypeSubset)
  | .subset, .parameter _ =>
    let known := progress.definitions
    .ok { progress with
      definitions := { known with refersOutside := true, attentive := known.standalone } }
  | .entityValue name, .literal text => progress.textEntity (some name) lexeme.here text
  | .entityPublic name, .literal text => do
    checkPublic lexeme.here text
    return progress.to (.entitySystem name)
  | .entityEnd name, .mark '>' => .ok (progress.defineEntity name .external .subset)
  | .entityNotation name, .word .name _ =>
    .ok (progress.defineEntity name .unparsed .declarationEnd)
  | .parameterValue, .literal text => progress.textEntity none lexeme.here text
  | .parameterPublic, .literal text => do
    checkPublic lexeme.here text
    return progress.to .parameterSystem
  | .notationPublic, .literal text => do
    checkPublic lexeme.here text
    return progress.to .notationOptionalSystem
  | .attributeDefault head, .literal text => progress.defaultAttribute head lexeme.here text
  | .fixedDefault head, .literal text => progress.defaultAttribute head lexeme.here text
  | .attributeDefault head, .keyword written =>
    if written = "IMPLIED".toList || written = "REQUIRED".toList then
      .ok (progress.defineAttribute head none)
    else if written = "FIXED".toList then .ok (progress.to (.fixedDefault head))
    else .error (unexpected lexeme)
  | .memberNext groups, .mark ')' | .memberNext groups, .repeatedGroup _ =>
    .ok (closeGroup progress groups)
  | .memberNext groups, .mark ',' =>
    match joinGroup progress .sequence groups with
    | some next => .ok next
    | none => .error (unexpected lexeme)
  | .memberNext groups, .mark '|' =>
    match joinGroup progress .choice groups with
    | some next => .ok next
    | none => .error (unexpected lexeme)
  | awaiting, found =>
    match awaiting.next found with
    | some next => .ok (progress.to next)
    | none => .error (unexpected lexeme)

/-- The element may begin. -/
def Awaiting.allowsElement : Awaiting → Bool
  | .beginning | .doctypeOrElement | .elementOnly => true
  | _ => false

/-- Takes up tokens until the element begins: the definitions, and the text from the
    element on. A text that ends earlier has no element. -/
def readTokens (progress : Progress) (atEnd : Failure) :
    List Lexeme → Except Failure (Definitions × List Char)
  | [] => .error atEnd
  | lexeme :: rest =>
    if lexeme.token = .element then
      if progress.awaiting.allowsElement then .ok (progress.definitions, lexeme.here)
      else .error (unexpected lexeme)
    else
      match advance progress lexeme with
      | .error failure => .error failure
      | .ok next => readTokens next atEnd rest

/-- Reads the prolog of a document: its definitions, and the text from its element on. -/
def read (text : List Char) : Except Failure (Definitions × List Char) :=
  let found := lexemes text
  readTokens {} (found.failure.getD ⟨.noElement, []⟩) found.items

/-- Checks that only blanks, comments and instructions stand after the element. -/
def checkTokens (atEnd : Option Failure) : List Lexeme → Except Failure Unit
  | [] =>
    match atEnd with
    | some failure => .error failure
    | none => .ok ()
  | lexeme :: rest =>
    match lexeme.token with
    | .blank | .comment => checkTokens atEnd rest
    | .instruction found =>
      if found.isDeclaration then .error ⟨.junkAfterElement, lexeme.here⟩
      else checkTokens atEnd rest
    | _ => .error ⟨.junkAfterElement, lexeme.here⟩

/-- Checks the text after the element. -/
def checkEnding (text : List Char) : Except Failure Unit :=
  let found := lexemes text
  checkTokens found.failure found.items

end LintReview.Markup.Prolog
