import LintReview.Markup.Aside

/-!
# The prolog as tokens

Before the element, and after it, a document is cut into other tokens than inside: names,
quoted literals, marks, and the openings of declarations. The opening of the element
itself ends the prolog.
-/

namespace LintReview.Markup.Prolog

/-- What a run of name characters is. -/
inductive WordKind where
  | name
  /-- A name with one colon inside. -/
  | qualified
  /-- Any other run of name characters and colons. -/
  | token
  deriving Repr, DecidableEq

/-- A token of the prolog. -/
inductive Token where
  | blank
  | comment
  | instruction (found : Instruction)
  /-- `<!` with a keyword. -/
  | declaration (keyword : List Char)
  /-- `<![`. -/
  | conditional
  /-- `<` in front of the name of the element. -/
  | element
  /-- A quoted text, without its quotes. -/
  | literal (text : List Char)
  | word (kind : WordKind) (written : List Char)
  /-- A name, or a closing parenthesis, with a mark for repetition. -/
  | repeated (name : List Char)
  /-- A name after `#`. -/
  | keyword (name : List Char)
  /-- A reference to a parameter entity. -/
  | parameter (name : List Char)
  /-- One of `% , | ( ) [ ] >`. -/
  | mark (value : Char)
  /-- `)*`, `)?` and `)+`. -/
  | repeatedGroup (mark : Char)
  /-- `]]>`. -/
  | conditionalEnd
  deriving Repr, DecidableEq

/-- A character that may follow the quote of a literal. -/
def mayFollowLiteral (character : Char) : Bool :=
  isBlank character || character = '>' || character = '%' || character = '['

/-- Reads a literal of which the opening quote is already read. -/
def literal (quote : Char) : List Char → Except Stop (List Char × List Char)
  | [] => .error .ended
  | character :: rest =>
    if character = quote then
      if rest.head?.all mayFollowLiteral then .ok ([], rest) else .error (.refused rest)
    else if isCharacter character then
      match literal quote rest with
      | .error stop => .error stop
      | .ok (text, after) => .ok (character :: text, after)
    else .error (.refused (character :: rest))

/-- A character that ends a run of name characters and stays unread. -/
def mayFollowWord (character : Char) : Bool :=
  isBlank character || character = '>' || character = ')' || character = ',' || character = '|'
    || character = '[' || character = '%'

/-- Reads the rest of a word. `written` holds what is read, the last first. -/
def word (kind : WordKind) (written : List Char) : List Char → Except Stop (Token × List Char)
  | [] => .ok (.word kind written.reverse, [])
  | character :: rest =>
    if isNameCharacter character then word kind (character :: written) rest
    else if mayFollowWord character then .ok (.word kind written.reverse, character :: rest)
    else if character = ':' then
      match kind with
      | .name =>
        match rest with
        | [] => .error .ended
        | next :: after =>
          if isNameCharacter next then word .qualified (next :: ':' :: written) after
          else word .token (':' :: written) (next :: after)
      | _ => word .token (':' :: written) rest
    else if character = '?' || character = '*' || character = '+' then
      if kind = .token then .error (.refused (character :: rest))
      else .ok (.repeated written.reverse, rest)
    else .error (.refused (character :: rest))

/-- Reads a declaration's keyword, of which `<!` is already read. -/
def declarationKeyword (written : List Char) : List Char → Except Stop (Token × List Char)
  | [] => .error .ended
  | character :: rest =>
    if character.isAlpha || character = '_' then declarationKeyword (character :: written) rest
    else if isBlank character then .ok (.declaration written.reverse, character :: rest)
    else if character = '%' then
      match rest with
      | [] => .error .ended
      | next :: _ =>
        if isBlank next || next = '%' then .error (.refused (character :: rest))
        else .ok (.declaration written.reverse, character :: rest)
    else .error (.refused (character :: rest))

/-- Reads what stands after `<!`. -/
def afterExclamation (text : List Char) : Except Stop (Token × List Char) :=
  match text with
  | [] => .error .ended
  | '-' :: rest => (comment rest).map fun after => (.comment, after)
  | '[' :: rest => .ok (.conditional, rest)
  | first :: rest =>
    if first.isAlpha || first = '_' then declarationKeyword [first] rest
    else .error (.refused text)

/-- Reads what stands after `<`. The opening of the element is not consumed. -/
def angled (text : List Char) : Except Stop (Token × List Char) :=
  match text with
  | [] => .error .ended
  | '!' :: rest => afterExclamation rest
  | '?' :: rest => (instruction rest).map fun (found, after) => (.instruction found, after)
  | first :: _ =>
    if isNameStart first || 0x80 ≤ first.toNat then
      .ok (.element, '<' :: text)
    else .error (.refused text)

/-- Reads what stands after `%`. -/
def afterPercent (text : List Char) : Except Stop (Token × List Char) :=
  match text with
  | [] => .error .ended
  | first :: _ =>
    if isNameStart first then
      match text.dropWhile isNameCharacter with
      | [] => .error .ended
      | ';' :: rest => .ok (.parameter (text.takeWhile isNameCharacter), rest)
      | here => .error (.refused here)
    else if isBlank first || first = '%' then .ok (.mark '%', text)
    else .error (.refused text)

/-- A character that may follow a name after `#`. -/
def mayFollowKeyword (character : Char) : Bool :=
  isBlank character || character = ')' || character = '>' || character = '%' || character = '|'

/-- Reads what stands after `#`. -/
def afterHash (text : List Char) : Except Stop (Token × List Char) :=
  match text with
  | [] => .error .ended
  | first :: _ =>
    if isNameStart first then
      let rest := text.dropWhile isNameCharacter
      if rest.head?.all mayFollowKeyword then .ok (.keyword (text.takeWhile isNameCharacter), rest)
      else .error (.refused rest)
    else .error (.refused text)

/-- A character that may follow a closing parenthesis. -/
def mayFollowGroup (character : Char) : Bool :=
  isBlank character || character = '>' || character = ',' || character = '|' || character = ')'

/-- Reads what stands after `)`. -/
def afterGroup : List Char → Except Stop (Token × List Char)
  | [] => .ok (.mark ')', [])
  | character :: rest =>
    if character = '*' || character = '?' || character = '+' then
      .ok (.repeatedGroup character, rest)
    else if mayFollowGroup character then .ok (.mark ')', character :: rest)
    else .error (.refused (character :: rest))

/-- Reads what stands after `]`. -/
def afterBracket : List Char → Except Stop (Token × List Char)
  | [']'] => .error .ended
  | ']' :: '>' :: rest => .ok (.conditionalEnd, rest)
  | rest => .ok (.mark ']', rest)

/-- Reads the token that begins with the given character. -/
def token (first : Char) (rest : List Char) : Except Stop (Token × List Char) :=
  if isBlank first then .ok (.blank, rest.dropWhile isBlank)
  else
    match first with
    | '<' => angled rest
    | '"' => (literal '"' rest).map fun (text, after) => (.literal text, after)
    | '\'' => (literal '\'' rest).map fun (text, after) => (.literal text, after)
    | '%' => afterPercent rest
    | '#' => afterHash rest
    | ')' => afterGroup rest
    | ']' => afterBracket rest
    | ',' | '|' | '(' | '[' | '>' => .ok (.mark first, rest)
    | _ =>
      if isNameStart first then word .name [first] rest
      else if isNameCharacter first || first = ':' then word .token [first] rest
      else .error (.refused (first :: rest))

/-- A token with the text from its first character on. -/
structure Lexeme where
  token : Token
  here : List Char
  deriving Repr, DecidableEq

/-- A text cut into tokens, and the failure of the first that cannot be read. -/
structure Lexemes where
  items : List Lexeme
  failure : Option Failure
  deriving Repr, DecidableEq

/-- Cuts a text into tokens, up to the opening of an element. At most as many tokens are
    read as `budget` has items; no token is empty, so the text's length suffices. -/
def lexemesWithin : List Char → List Char → Lexemes
  | _, [] => ⟨[], none⟩
  | [], _ :: _ => ⟨[], none⟩
  | _ :: budget, first :: rest =>
    match token first rest with
    | .error stop => ⟨[], some (stop.failure (first :: rest))⟩
    | .ok (.element, _) => ⟨[⟨.element, first :: rest⟩], none⟩
    | .ok (found, after) =>
      let others := lexemesWithin budget after
      ⟨⟨found, first :: rest⟩ :: others.items, others.failure⟩

/-- Cuts a text into tokens, up to the opening of an element. -/
def lexemes (text : List Char) : Lexemes :=
  lexemesWithin text text

end LintReview.Markup.Prolog
