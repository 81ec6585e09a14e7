import LintReview.Markup.Aside
import LintReview.Markup.Tag

/-!
# Content as tokens

The content of an element is a row of tokens: tags, references, sections of literal
text, asides, and single characters. `lexemes` cuts a text into them from the front, up
to the first place where none can be read. Outside sections the text must not hold
`]]>`, and each of the three ways to end a line gives one line feed.
-/

namespace LintReview.Markup

/-- A token of content. -/
inductive Token where
  | opening (name : QualifiedName) (ending : TagEnd)
  | closing (name : List Char)
  | character (value : Char)
  /-- The literal text of a section. -/
  | literal (text : List Char)
  | reference (target : Reference)
  /-- A comment or an instruction. -/
  | aside
  deriving Repr, DecidableEq

/-- The bytes that a character takes. -/
def byteCount (text : List Char) : Nat :=
  (text.map fun character => character.utf8Size).foldr (· + ·) 0

/-- Reads the fixed word that begins a section of literal text. -/
def sectionWord : List Char → List Char → Except Stop (List Char)
  | [], rest => .ok rest
  | _ :: _, [] => .error .ended
  | expected :: word, character :: rest =>
    if expected = character then sectionWord word rest else .error (.refused (character :: rest))

/-- Reads the text of a section up to its end. -/
def sectionBody : List Char → Except Failure (List Char × List Char)
  | [] => .error ⟨.unclosedSection, []⟩
  | [']'] => .error ⟨.unclosedSection, [']']⟩
  | [']', ']'] => .error ⟨.unclosedSection, [']', ']']⟩
  | ['\r'] => .error ⟨.unclosedSection, ['\r']⟩
  | ']' :: ']' :: '>' :: rest => .ok ([], rest)
  | '\r' :: '\n' :: rest =>
    match sectionBody rest with
    | .error failure => .error failure
    | .ok (body, after) => .ok ('\n' :: body, after)
  | character :: rest =>
    if isCharacter character then
      match sectionBody rest with
      | .error failure => .error failure
      | .ok (body, after) => .ok ((if character = '\r' then '\n' else character) :: body, after)
    else .error ⟨.invalidToken, character :: rest⟩

/-- Reads a section of which `<![` is already read. The word is looked at only if enough
    bytes for it are left. -/
def literalSection (start text : List Char) : Except Failure (Token × List Char) :=
  if byteCount (text.take 6) < 6 then .error ⟨.unclosedToken, start⟩
  else
    match sectionWord "CDATA[".toList text with
    | .error stop => .error (stop.failure start)
    | .ok rest =>
      match sectionBody rest with
      | .error failure => .error failure
      | .ok (body, after) => .ok (.literal body, after)

/-- A character of the name in an end tag. The name may hold any number of colons, because
    it has to be the name of the start tag anyway. -/
def isEndTagCharacter (character : Char) : Bool :=
  isNameCharacter character || character = ':'

/-- Reads the end of an end tag. -/
def closeEndTag (name text : List Char) : Except Stop (List Char × List Char) :=
  match text.dropWhile isBlank with
  | [] => .error .ended
  | '>' :: rest => .ok (name, rest)
  | here => .error (.refused here)

/-- Reads an end tag of which `</` is already read. -/
def endTag (text : List Char) : Except Stop (List Char × List Char) :=
  match text with
  | [] => .error .ended
  | first :: _ =>
    if isNameStart first then
      closeEndTag (text.takeWhile isEndTagCharacter) (text.dropWhile isEndTagCharacter)
    else .error (.refused text)

/-- Reads a start tag of which `<` is already read. -/
def startTag (text : List Char) : Except Stop (Token × List Char) :=
  match qualifiedName text with
  | .error stop => .error stop
  | .ok (name, rest) =>
    match tagEnd rest with
    | .error stop => .error stop
    | .ok (ending, after) => .ok (.opening name ending, after)

/-- A result whose failure is located by the start of the token. -/
def located {α β : Type} (start : List Char) (wrap : α → β) :
    Except Stop (α × List Char) → Except Failure (β × List Char)
  | .error stop => .error (stop.failure start)
  | .ok (value, rest) => .ok (wrap value, rest)

/-- Reads an instruction inside content, where no declaration may stand. -/
def contentInstruction (start text : List Char) : Except Failure (Token × List Char) :=
  match instruction text with
  | .error stop => .error (stop.failure start)
  | .ok (found, rest) =>
    if found.isDeclaration then .error ⟨.misplacedDeclaration, start⟩ else .ok (.aside, rest)

/-- Reads a comment inside content. -/
def contentComment (start text : List Char) : Except Failure (Token × List Char) :=
  match comment text with
  | .error stop => .error (stop.failure start)
  | .ok rest => .ok (.aside, rest)

/-- Reads a token that begins with `<`. -/
def angled (text : List Char) : Except Failure (Token × List Char) :=
  let start := '<' :: text
  match text with
  | [] => .error ⟨.unclosedToken, start⟩
  | '/' :: rest => located start Token.closing (endTag rest)
  | ['!'] => .error ⟨.unclosedToken, start⟩
  | '!' :: '-' :: rest => contentComment start rest
  | '!' :: '[' :: rest => literalSection start rest
  | '!' :: here => .error ⟨.invalidToken, here⟩
  | '?' :: rest => contentInstruction start rest
  | first :: _ =>
    if isNameStart first then located start id (startTag text) else .error ⟨.invalidToken, text⟩

/-- Reads the token that begins with the given character. -/
def token (first : Char) (rest : List Char) : Except Failure (Token × List Char) :=
  if first = '<' then angled rest
  else if first = '&' then located (first :: rest) Token.reference (reference rest)
  else if first = '\r' then
    match rest with
    | '\n' :: after => .ok (.character '\n', after)
    | _ => .ok (.character '\n', rest)
  else if !isCharacter first then .error ⟨.invalidToken, first :: rest⟩
  else if first = ']' then
    match rest with
    | ']' :: '>' :: after => .error ⟨.invalidToken, '>' :: after⟩
    | _ => .ok (.character ']', rest)
  else .ok (.character first, rest)

theorem length_sectionWord {word text rest : List Char} (read : sectionWord word text = .ok rest) :
    rest.length ≤ text.length := by
  fun_induction sectionWord word text with
  | case1 => simp_all
  | case2 => simp at read
  | case3 expected character tail inductionHypothesis =>
    exact Nat.le_succ_of_le (inductionHypothesis read)
  | case4 => simp at read

theorem length_sectionBody {text body rest : List Char}
    (read : sectionBody text = .ok (body, rest)) :
    rest.length < text.length := by
  fun_induction sectionBody text generalizing body with
  | case1 => simp at read
  | case2 => simp at read
  | case3 => simp at read
  | case4 => simp at read
  | case5 =>
    simp only [Except.ok.injEq, Prod.mk.injEq] at read
    simp only [← read.2, List.length_cons]
    omega
  | case6 => simp at read
  | case7 tail inner after readInner inductionHypothesis =>
    simp only [Except.ok.injEq, Prod.mk.injEq] at read
    obtain ⟨_, rfl⟩ := read
    exact Nat.lt_succ_of_lt (Nat.lt_succ_of_lt (inductionHypothesis readInner))
  | case8 => simp at read
  | case9 character tail _ _ _ _ _ _ inner after readInner inductionHypothesis =>
    simp only [Except.ok.injEq, Prod.mk.injEq] at read
    obtain ⟨_, rfl⟩ := read
    exact Nat.lt_succ_of_lt (inductionHypothesis readInner)
  | case10 => simp at read

theorem length_literalSection {start text rest : List Char} {found : Token}
    (read : literalSection start text = .ok (found, rest)) : rest.length < text.length := by
  unfold literalSection at read
  split at read
  · simp at read
  · split at read
    · simp at read
    · rename_i wordRead
      have first := length_sectionWord wordRead
      split at read
      · simp at read
      · rename_i bodyRead
        have second := length_sectionBody bodyRead
        simp only [Except.ok.injEq, Prod.mk.injEq] at read
        obtain ⟨_, rfl⟩ := read
        omega

theorem length_closeEndTag {name text found rest : List Char}
    (read : closeEndTag name text = .ok (found, rest)) : rest.length < text.length := by
  unfold closeEndTag at read
  split at read
  · simp at read
  · rename_i same
    simp only [Except.ok.injEq, Prod.mk.injEq] at read
    obtain ⟨_, rfl⟩ := read
    refine Nat.lt_of_lt_of_le ?_ (length_dropWhile_le isBlank _)
    rw [same]
    simp
  · simp at read

theorem length_endTag {text name rest : List Char} (read : endTag text = .ok (name, rest)) :
    rest.length < text.length := by
  unfold endTag at read
  split at read
  · simp at read
  · split at read
    · exact Nat.lt_of_lt_of_le (length_closeEndTag read) (length_dropWhile_le _ _)
    · simp at read

theorem length_startTag {text rest : List Char} {found : Token}
    (read : startTag text = .ok (found, rest)) : rest.length < text.length := by
  unfold startTag at read
  split at read
  · simp at read
  · rename_i nameRead
    have first := length_qualifiedName nameRead
    split at read
    · simp at read
    · rename_i endRead
      have second := length_tagEnd endRead
      simp only [Except.ok.injEq, Prod.mk.injEq] at read
      obtain ⟨_, rfl⟩ := read
      omega

theorem length_located {α β : Type} {start : List Char} {wrap : α → β} {found : β}
    {rest : List Char}
    {result : Except Stop (α × List Char)} (read : located start wrap result = .ok (found, rest)) :
    ∃ value, result = .ok (value, rest) := by
  unfold located at read
  split at read
  · simp at read
  · rename_i value after
    simp only [Except.ok.injEq, Prod.mk.injEq] at read
    exact ⟨value, by rw [read.2]⟩

theorem length_contentInstruction {start text rest : List Char} {found : Token}
    (read : contentInstruction start text = .ok (found, rest)) : rest.length < text.length := by
  unfold contentInstruction at read
  split at read
  · simp at read
  · rename_i instructionRead
    split at read
    · simp at read
    · simp only [Except.ok.injEq, Prod.mk.injEq] at read
      obtain ⟨_, rfl⟩ := read
      exact length_instruction instructionRead

theorem length_contentComment {start text rest : List Char} {found : Token}
    (read : contentComment start text = .ok (found, rest)) : rest.length < text.length := by
  unfold contentComment at read
  split at read
  · simp at read
  · rename_i commentRead
    simp only [Except.ok.injEq, Prod.mk.injEq] at read
    obtain ⟨_, rfl⟩ := read
    exact length_comment commentRead

theorem length_angled {text rest : List Char} {found : Token}
    (read : angled text = .ok (found, rest)) : rest.length < text.length := by
  unfold angled at read
  split at read
  · simp at read
  · obtain ⟨name, tagRead⟩ := length_located read
    exact Nat.lt_succ_of_lt (length_endTag tagRead)
  · simp at read
  · exact Nat.lt_succ_of_lt (Nat.lt_succ_of_lt (length_contentComment read))
  · exact Nat.lt_succ_of_lt (Nat.lt_succ_of_lt (length_literalSection read))
  · simp at read
  · exact Nat.lt_succ_of_lt (length_contentInstruction read)
  · split at read
    · obtain ⟨value, tagRead⟩ := length_located read
      exact length_startTag tagRead
    · simp at read

/-- Every token takes its first character. -/
theorem length_token {first : Char} {text rest : List Char} {found : Token}
    (read : token first text = .ok (found, rest)) : rest.length ≤ text.length := by
  unfold token at read
  split at read
  · exact Nat.le_of_lt (length_angled read)
  · split at read
    · obtain ⟨value, referenceRead⟩ := length_located read
      exact Nat.le_of_lt (length_reference referenceRead)
    · split at read
      · split at read <;> grind
      · split at read
        · simp at read
        · split at read
          · split at read <;> simp_all
          · simp_all

/-- A token with the text from its first character on, and the text after it. -/
structure Lexeme where
  token : Token
  here : List Char
  after : List Char
  deriving Repr, DecidableEq

/-- A text cut into tokens, and the failure of the first that cannot be read. -/
structure Lexemes where
  items : List Lexeme
  failure : Option Failure
  deriving Repr, DecidableEq

/-- Cuts a text into tokens. -/
def lexemes : List Char → Lexemes
  | [] => ⟨[], none⟩
  | first :: rest =>
    match read : token first rest with
    | .error failure => ⟨[], some failure⟩
    | .ok (found, after) =>
      have : after.length ≤ rest.length := length_token read
      let others := lexemes after
      ⟨⟨found, first :: rest, after⟩ :: others.items, others.failure⟩
termination_by text => text.length

end LintReview.Markup
