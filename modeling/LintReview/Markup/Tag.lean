import LintReview.Markup.Reference

/-!
# Tags

A start tag holds a name and attributes, an end tag a name alone. A name may have a
qualifier, set off by a colon. The value of an attribute is kept as pieces, because what
its references stand for is decided only after the whole tag is read.
-/

namespace LintReview.Markup

/-- A name as it is written in a tag. -/
structure QualifiedName where
  qualifier : Option (List Char)
  base : List Char
  deriving Repr, DecidableEq

/-- The characters of the name. -/
def QualifiedName.written (name : QualifiedName) : List Char :=
  match name.qualifier with
  | some qualifier => qualifier ++ ':' :: name.base
  | none => name.base

/-- The name that written characters stand for: the first colon ends the qualifier. -/
def QualifiedName.ofWritten (written : List Char) : QualifiedName :=
  match written.dropWhile (· ≠ ':') with
  | _ :: base => ⟨some (written.takeWhile (· ≠ ':')), base⟩
  | [] => ⟨none, written⟩

/-- Reads the part of a name after the colon. -/
def namePart (qualifier : List Char) (text : List Char) :
    Except Stop (QualifiedName × List Char) :=
  match text with
  | [] => .error .ended
  | first :: _ =>
    if isNameStart first then
      match text.dropWhile isNameCharacter with
      | ':' :: more => .error (.refused (':' :: more))
      | rest => .ok (⟨some qualifier, text.takeWhile isNameCharacter⟩, rest)
    else .error (.refused text)

/-- Reads a name with at most one colon. The caller has seen its first character. -/
def qualifiedName (text : List Char) : Except Stop (QualifiedName × List Char) :=
  match text.dropWhile isNameCharacter with
  | ':' :: rest => namePart (text.takeWhile isNameCharacter) rest
  | rest => .ok (⟨none, text.takeWhile isNameCharacter⟩, rest)

theorem length_namePart {qualifier : List Char} {name : QualifiedName} {text rest : List Char}
    (read : namePart qualifier text = .ok (name, rest)) : rest.length ≤ text.length := by
  unfold namePart at read
  split at read
  · simp at read
  · split at read
    · split at read
      · simp at read
      · simp only [Except.ok.injEq, Prod.mk.injEq] at read
        rw [← read.2]
        exact length_dropWhile_le _ _
    · simp at read

/-- A name is read from the front. -/
theorem length_qualifiedName {name : QualifiedName} {text rest : List Char}
    (read : qualifiedName text = .ok (name, rest)) : rest.length ≤ text.length := by
  unfold qualifiedName at read
  have shorter := length_dropWhile_le isNameCharacter text
  split at read
  · rename_i more same
    have tail := length_namePart read
    rw [same] at shorter
    simp only [List.length_cons] at shorter
    omega
  · simp only [Except.ok.injEq, Prod.mk.injEq] at read
    rw [← read.2]
    exact shorter

/-- A part of an attribute's value. -/
inductive Piece where
  | character (value : Char)
  /-- A reference, and the text from its ampersand on. -/
  | reference (target : Reference) (here : List Char)
  deriving Repr, DecidableEq

/-- Reads a value up to the closing quote, or to the end of the text if there is none.
    Every blank, and a carriage return with its line feed, gives a space. -/
def pieces (quote : Option Char) : List Char → Except Stop (List Piece × List Char)
  | [] => if quote.isNone then .ok ([], []) else .error .ended
  | '\r' :: '\n' :: rest => do
    let (others, after) ← pieces quote rest
    return (.character ' ' :: others, after)
  | '&' :: rest =>
    match read : reference rest with
    | .error stop => .error stop
    | .ok (target, after) =>
      have : after.length < rest.length := length_reference read
      do
        let (others, ending) ← pieces quote after
        return (.reference target ('&' :: rest) :: others, ending)
  | character :: rest =>
    if some character = quote then .ok ([], rest)
    else if character = '<' || !isCharacter character then .error (.refused (character :: rest))
    else do
      let (others, after) ← pieces quote rest
      return (.character (if isBlank character then ' ' else character) :: others, after)
termination_by text => text.length

/-- A piece in front of others leaves the text that they leave. -/
theorem exists_ok_of_piece {piece : Piece} {others : Except Stop (List Piece × List Char)}
    {found : List Piece} {rest : List Char}
    (read : (do
      let (more, after) ← others
      return (piece :: more, after)) = .ok (found, rest)) :
    ∃ more, others = .ok (more, rest) := by
  cases others with
  | error stop => cases read
  | ok result =>
    obtain ⟨more, after⟩ := result
    obtain ⟨-, rfl⟩ := Prod.mk.inj (Except.ok.inj read)
    exact ⟨more, rfl⟩

/-- A value with a closing quote takes at least the quote. -/
theorem length_pieces {quote : Char} {found : List Piece} {text rest : List Char}
    (read : pieces (some quote) text = .ok (found, rest)) : rest.length < text.length := by
  fun_induction pieces (some quote) text generalizing found with
  | case1 => simp at *
  | case2 => simp at read
  | case3 tail inductionHypothesis =>
    obtain ⟨others, inner⟩ := exists_ok_of_piece read
    have shorter := inductionHypothesis inner
    simp only [List.length_cons]
    omega
  | case4 => simp at read
  | case5 tail target after readReference shorterAfter inductionHypothesis =>
    obtain ⟨others, inner⟩ := exists_ok_of_piece read
    have shorter := inductionHypothesis inner
    simp only [List.length_cons]
    omega
  | case6 character tail =>
    simp only [Except.ok.injEq, Prod.mk.injEq] at read
    rw [← read.2]
    simp
  | case7 => simp at read
  | case8 character tail _ _ _ _ inductionHypothesis =>
    obtain ⟨others, inner⟩ := exists_ok_of_piece read
    have shorter := inductionHypothesis inner
    simp only [List.length_cons]
    omega

/-- An attribute as it is written: its name, the text from the name on, and its value. -/
structure AttributeText where
  name : QualifiedName
  here : List Char
  value : List Piece
  deriving Repr, DecidableEq

/-- Reads the quote that opens a value, and the value. -/
def quotedValue : List Char → Except Stop (List Piece × List Char)
  | [] => .error .ended
  | '"' :: rest => pieces (some '"') rest
  | '\'' :: rest => pieces (some '\'') rest
  | here => .error (.refused here)

/-- Reads the equals sign, with blanks around it, and the value. -/
def assignedValue (text : List Char) : Except Stop (List Piece × List Char) :=
  match text.dropWhile isBlank with
  | [] => .error .ended
  | '=' :: rest => quotedValue (rest.dropWhile isBlank)
  | here => .error (.refused here)

theorem length_quotedValue {found : List Piece} {text rest : List Char}
    (read : quotedValue text = .ok (found, rest)) : rest.length < text.length := by
  unfold quotedValue at read
  split at read
  · simp at read
  · exact Nat.lt_succ_of_lt (length_pieces read)
  · exact Nat.lt_succ_of_lt (length_pieces read)
  · simp at read

theorem length_assignedValue {found : List Piece} {text rest : List Char}
    (read : assignedValue text = .ok (found, rest)) : rest.length < text.length := by
  unfold assignedValue at read
  have blanks := length_dropWhile_le isBlank text
  split at read
  · simp at read
  · rename_i more same
    have value := length_quotedValue read
    have further := length_dropWhile_le isBlank more
    rw [same] at blanks
    simp only [List.length_cons] at blanks
    omega
  · simp at read

/-- Reads one attribute. The caller has seen the first character of its name. -/
def attributeText (text : List Char) : Except Stop (AttributeText × List Char) :=
  match qualifiedName text with
  | .error stop => .error stop
  | .ok (name, rest) =>
    match assignedValue rest with
    | .error stop => .error stop
    | .ok (value, after) => .ok (⟨name, text, value⟩, after)

/-- An attribute is read from the front and takes something. -/
theorem length_attributeText {found : AttributeText} {text rest : List Char}
    (read : attributeText text = .ok (found, rest)) : rest.length < text.length := by
  unfold attributeText at read
  split at read
  · simp at read
  · rename_i name afterName nameRead
    split at read
    · simp at read
    · rename_i value afterValue valueRead
      have first := length_qualifiedName nameRead
      have second := length_assignedValue valueRead
      simp only [Except.ok.injEq, Prod.mk.injEq] at read
      rw [← read.2]
      omega

/-- What a start tag holds after the element's name. -/
structure TagEnd where
  attributes : List AttributeText
  /-- The element has no content and no end tag. -/
  closed : Bool
  deriving Repr, DecidableEq

/-- Reads the characters that close a start tag. -/
def closeTag : List Char → Except Stop (TagEnd × List Char)
  | [] => .error .ended
  | '>' :: rest => .ok (⟨[], false⟩, rest)
  | ['/'] => .error .ended
  | '/' :: '>' :: rest => .ok (⟨[], true⟩, rest)
  | '/' :: here => .error (.refused here)
  | here => .error (.refused here)

/-- Reads what stands after the element's name in a start tag. Blanks come before every
    attribute. -/
def tagEnd (text : List Char) : Except Stop (TagEnd × List Char) :=
  if text.head?.any isBlank then
    match same : text.dropWhile isBlank with
    | [] => .error .ended
    | first :: rest =>
      if isNameStart first then
        match read : attributeText (first :: rest) with
        | .error stop => .error stop
        | .ok (entry, after) =>
          have : after.length < text.length := by
            have shorter := length_attributeText read
            have blanks := length_dropWhile_le isBlank text
            rw [same] at blanks
            omega
          match tagEnd after with
          | .error stop => .error stop
          | .ok (others, ending) => .ok (⟨entry :: others.attributes, others.closed⟩, ending)
      else closeTag (first :: rest)
  else closeTag text
termination_by text.length

theorem length_closeTag {found : TagEnd} {text rest : List Char}
    (read : closeTag text = .ok (found, rest)) : rest.length < text.length := by
  unfold closeTag at read
  split at read
  · cases read
  · obtain ⟨-, rfl⟩ := Prod.mk.inj (Except.ok.inj read)
    exact Nat.lt_succ_self _
  · cases read
  · obtain ⟨-, rfl⟩ := Prod.mk.inj (Except.ok.inj read)
    exact Nat.lt_succ_of_lt (Nat.lt_succ_self _)
  · cases read
  · cases read

theorem length_tagEnd {found : TagEnd} {text rest : List Char}
    (read : tagEnd text = .ok (found, rest)) : rest.length < text.length := by
  fun_induction tagEnd text generalizing found with
  | case1 => simp at read
  | case2 => simp at read
  | case3 => simp at read
  | case4 text blank first tail same start entry after readEntry shorter others ending readRest
      inductionHypothesis =>
    simp only [Except.ok.injEq, Prod.mk.injEq] at read
    obtain ⟨_, rfl⟩ := read
    have further := inductionHypothesis readRest
    omega
  | case5 text blank first tail same notStart =>
    have blanks := length_dropWhile_le isBlank text
    rw [same] at blanks
    have shorter := length_closeTag read
    omega
  | case6 => exact length_closeTag read

end LintReview.Markup
