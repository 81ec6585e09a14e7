import LintReview.Markup.Element
import LintReview.Text.OneOf

/-!
# Elements from tokens

Reading goes through the tokens with the elements that are open, the innermost first. A
reference to an entity reads the tokens of its text in the place of the reference; the
text must close each element it opens, and no other. A failure inside it is located at
the reference.
-/

namespace LintReview.Markup

/-- What reading some tokens leads to. -/
inductive Reading where
  /-- The tokens are used up, and elements are open. -/
  | unfinished (frames : List Frame)
  /-- The outermost element is closed, and the text goes on after it. -/
  | finished (element : Element) (after : List Char)

/-- Adds a node to the innermost open element. -/
def addNode (node : Node) : List Frame → List Frame
  | [] => []
  | frame :: outer => frame.add node :: outer

/-- Adds characters to the innermost open element. -/
def addText (text : List Char) (frames : List Frame) : List Frame :=
  text.foldl (fun frames value => addNode (.character value) frames) frames

/-- Closes the innermost element. -/
def closeElement (after : List Char) : List Frame → Reading
  | [] => .unfinished []
  | [frame] => .finished frame.element after
  | frame :: outer =>
    .unfinished (addNode (.element frame.name frame.attributes frame.content.reverse) outer)

/-- The bindings in force inside the open elements. -/
def bindingsOf : List Frame → Bindings
  | [] => Bindings.initial
  | frame :: _ => frame.bindings

/-- Takes up a token that is no reference to an entity. Elements that were open at the
    depth `base` stay so. -/
def Definitions.take (definitions : Definitions) (inside : List (List Char)) (base : Nat)
    (frames : List Frame) (lexeme : Lexeme) : Except Failure Reading :=
  match lexeme.token with
  | .character value => .ok (.unfinished (addNode (.character value) frames))
  | .literal text => .ok (.unfinished (addText text frames))
  | .aside => .ok (.unfinished frames)
  | .reference (.number code) =>
    match characterOfCode? code with
    | some value => .ok (.unfinished (addNode (.character value) frames))
    | none => .error ⟨.invalidCharacterNumber, lexeme.here⟩
  | .reference (.entity _) => .ok (.unfinished frames)
  | .opening name ending => do
    let frame ← definitions.openElement inside (bindingsOf frames) lexeme.here name ending
    if ending.closed then return closeElement lexeme.after (frame :: frames)
    else return .unfinished (frame :: frames)
  | .closing name =>
    if frames.length = base then .error ⟨.asynchronousEntity, lexeme.here⟩
    else
      match frames with
      | [] => .error ⟨.asynchronousEntity, lexeme.here⟩
      | frame :: _ =>
        if frame.written = name then .ok (closeElement lexeme.after frames)
        else .error ⟨.mismatchedTag, lexeme.here.drop 2⟩

/-- Reads tokens. `inside` holds the names of the entities whose text is being read, and
    at most `depth` more are entered. -/
def Definitions.read (definitions : Definitions) (depth : Nat) (inside : List (List Char))
    (base : Nat) (frames : List Frame) : List Lexeme → Except Failure Reading
  | [] => .ok (.unfinished frames)
  | lexeme :: rest =>
    match lexeme.token with
    | .reference (.entity name) =>
      let replaced : Except Failure (List Frame) :=
        match predefined? name with
        | some value => .ok (addNode (.character value) frames)
        | none =>
          match definitions.entity? name with
          | none =>
            let cause := if definitions.isComplete then .undefinedEntity else .unknownEntity name
            .error ⟨cause, lexeme.here⟩
          | some entity =>
            if Text.isOneOf inside name then .error ⟨.recursiveReference, lexeme.here⟩
            else
              match entity, depth with
              | .unparsed, _ => .error ⟨.binaryReference, lexeme.here⟩
              | .external, _ => .error ⟨.unknownEntity name, lexeme.here⟩
              | .text _, 0 => .error ⟨.recursiveReference, lexeme.here⟩
              | .text value, depth + 1 =>
                let found := lexemes value
                match definitions.read depth (name :: inside) frames.length frames found.items with
                | .error failure => .error ⟨failure.cause, lexeme.here⟩
                | .ok (.finished _ _) => .error ⟨.asynchronousEntity, lexeme.here⟩
                | .ok (.unfinished inner) =>
                  match found.failure with
                  | some failure => .error ⟨failure.cause, lexeme.here⟩
                  | none =>
                    if inner.length = frames.length then .ok inner
                    else .error ⟨.asynchronousEntity, lexeme.here⟩
      match replaced with
      | .error failure => .error failure
      | .ok frames => definitions.read depth inside base frames rest
    | _ =>
      match definitions.take inside base frames lexeme with
      | .error failure => .error failure
      | .ok (.finished element after) => .ok (.finished element after)
      | .ok (.unfinished frames) => definitions.read depth inside base frames rest
termination_by tokens => (depth, tokens.length)

/-- Where a text that ends inside an element is refused: at its end, or at a carriage
    return that stands there. -/
def endOf (text : List Char) : List Char :=
  if text.getLast? = some '\r' then ['\r'] else []

/-- Reads the outermost element from the front of a text. -/
def Definitions.readElement (definitions : Definitions) (text : List Char) :
    Except Failure (Element × List Char) :=
  let found := lexemes text
  match definitions.read definitions.entities.length [] 0 [] found.items with
  | .error failure => .error failure
  | .ok (.finished element after) => .ok (element, after)
  | .ok (.unfinished _) => .error (found.failure.getD ⟨.noElement, endOf text⟩)

end LintReview.Markup
