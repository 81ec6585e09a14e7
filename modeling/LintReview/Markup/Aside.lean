import LintReview.Markup.Reference

/-!
# Comments and instructions

A comment stands between `<!--` and `-->` and holds no two hyphens in a row. An
instruction stands between `<?` and `?>` and begins with a target. The target `xml`, in
these letters, makes it a declaration; in any other case of the letters it is refused.
-/

namespace LintReview.Markup

/-- Reads the rest of a comment. -/
def commentBody : List Char → Except Stop (List Char)
  | [] => .error .ended
  | ['-', '-'] => .error .ended
  | '-' :: '-' :: '>' :: rest => .ok rest
  | '-' :: '-' :: here => .error (.refused here)
  | character :: rest =>
    if isCharacter character then commentBody rest else .error (.refused (character :: rest))

/-- Reads a comment of which `<!-` is already read. -/
def comment : List Char → Except Stop (List Char)
  | [] => .error .ended
  | '-' :: rest => commentBody rest
  | here => .error (.refused here)

/-- Reads the rest of an instruction: its text, and what follows it. -/
def instructionBody : List Char → Except Stop (List Char × List Char)
  | [] => .error .ended
  | '?' :: '>' :: rest => .ok ([], rest)
  | character :: rest =>
    if isCharacter character then
      match instructionBody rest with
      | .error stop => .error stop
      | .ok (body, after) => .ok (character :: body, after)
    else .error (.refused (character :: rest))

/-- An instruction, by its target and the text after it. -/
structure Instruction where
  target : List Char
  body : List Char
  deriving Repr, DecidableEq

/-- The target that makes an instruction a declaration. -/
def declarationTarget : List Char := ['x', 'm', 'l']

/-- The instruction is a declaration. -/
def Instruction.isDeclaration (instruction : Instruction) : Bool :=
  instruction.target = declarationTarget

/-- A target that only the letters' case tells from the declaration's. -/
def isMiscasedTarget (target : List Char) : Bool :=
  target.map Char.toLower = declarationTarget && target ≠ declarationTarget

/-- Reads what stands after the target of an instruction. -/
def afterTarget (target text : List Char) : Except Stop (Instruction × List Char) :=
  match text with
  | [] => .error .ended
  | first :: rest =>
    if isBlank first || first = '?' then
      if isMiscasedTarget target then .error (.refused text)
      else if isBlank first then
        match instructionBody rest with
        | .error stop => .error stop
        | .ok (body, after) => .ok (⟨target, first :: body⟩, after)
      else
        match rest with
        | [] => .error .ended
        | '>' :: after => .ok (⟨target, []⟩, after)
        | here => .error (.refused here)
    else .error (.refused text)

/-- Reads an instruction of which `<?` is already read. -/
def instruction (text : List Char) : Except Stop (Instruction × List Char) :=
  match text with
  | [] => .error .ended
  | first :: _ =>
    if isNameStart first then
      afterTarget (text.takeWhile isNameCharacter) (text.dropWhile isNameCharacter)
    else .error (.refused text)

theorem length_commentBody {text rest : List Char} (read : commentBody text = .ok rest) :
    rest.length < text.length := by
  fun_induction commentBody text with
  | case1 => simp at read
  | case2 => simp at read
  | case3 =>
    simp only [Except.ok.injEq] at read
    simp only [← read, List.length_cons]
    omega
  | case4 => simp at read
  | case5 character tail _ _ _ _ inductionHypothesis =>
    exact Nat.lt_succ_of_lt (inductionHypothesis read)
  | case6 => simp at read

theorem length_comment {text rest : List Char} (read : comment text = .ok rest) :
    rest.length < text.length := by
  unfold comment at read
  split at read
  · simp at read
  · exact Nat.lt_succ_of_lt (length_commentBody read)
  · simp at read

theorem length_instructionBody {text body rest : List Char}
    (read : instructionBody text = .ok (body, rest)) : rest.length < text.length := by
  fun_induction instructionBody text generalizing body with
  | case1 => simp at read
  | case2 =>
    simp only [Except.ok.injEq, Prod.mk.injEq] at read
    simp only [← read.2, List.length_cons]
    omega
  | case3 => simp at read
  | case4 character tail _ _ inner after readInner inductionHypothesis =>
    simp only [Except.ok.injEq, Prod.mk.injEq] at read
    obtain ⟨_, rfl⟩ := read
    exact Nat.lt_succ_of_lt (inductionHypothesis readInner)
  | case5 => simp at read

theorem length_afterTarget {target text rest : List Char} {found : Instruction}
    (read : afterTarget target text = .ok (found, rest)) : rest.length < text.length := by
  unfold afterTarget at read
  split at read
  · simp at read
  · split at read
    · split at read
      · simp at read
      · split at read
        · split at read
          · simp at read
          · rename_i readBody
            simp only [Except.ok.injEq, Prod.mk.injEq] at read
            obtain ⟨_, rfl⟩ := read
            exact Nat.lt_succ_of_lt (length_instructionBody readBody)
        · split at read
          · simp at read
          · simp only [Except.ok.injEq, Prod.mk.injEq] at read
            simp only [← read.2, List.length_cons]
            omega
          · simp at read
    · simp at read

/-- An instruction is read from the front and takes something. -/
theorem length_instruction {text rest : List Char} {found : Instruction}
    (read : instruction text = .ok (found, rest)) : rest.length < text.length := by
  unfold instruction at read
  split at read
  · simp at read
  · split at read
    · exact Nat.lt_of_lt_of_le (length_afterTarget read) (length_dropWhile_le _ _)
    · simp at read

end LintReview.Markup
