/-!
# Lines and separated fields

A text is cut in three ways. `split` cuts at one separating element and keeps
every part, so `n` separators give `n + 1` parts. `terminated` cuts after each
newline and keeps it, so the parts put together are the text again. `lines` cuts
at every Unicode line break and drops it; a break at the end closes the last line
and starts no further one. The element type of the first two is arbitrary, because
the bytes of a file and the characters of its text are cut by the same rule.
-/

namespace LintReview.Text

/-- The parts between occurrences of `separator`, the empty ones included. -/
def split {α : Type} [DecidableEq α] (separator : α) : List α → List (List α)
  | [] => [[]]
  | item :: rest =>
    if item = separator then [] :: split separator rest
    else (split separator rest).modifyHead (item :: ·)

/-- Cutting always yields at least one part. -/
theorem split_ne_nil {α : Type} [DecidableEq α] (separator : α) (items : List α) :
    split separator items ≠ [] := by
  induction items with
  | nil => simp [split]
  | cons item rest inductionHypothesis =>
    unfold split
    split
    · simp
    · intro empty
      cases parts : split separator rest with
      | nil => exact inductionHypothesis parts
      | cons first others => simp [parts] at empty

/-- The parts with one separator between neighbours. -/
def join {α : Type} (separator : List α) : List (List α) → List α
  | [] => []
  | [part] => part
  | part :: rest => part ++ separator ++ join separator rest

/-- Joining the parts with the separator gives the cut list back. -/
theorem join_split {α : Type} [DecidableEq α] (separator : α) (items : List α) :
    join [separator] (split separator items) = items := by
  induction items with
  | nil => rfl
  | cons item rest inductionHypothesis =>
    unfold split
    split
    · rename_i same
      cases parts : split separator rest with
      | nil => exact absurd parts (split_ne_nil separator rest)
      | cons first others =>
        rw [parts] at inductionHypothesis
        simp [join, inductionHypothesis, same]
    · cases parts : split separator rest with
      | nil => exact absurd parts (split_ne_nil separator rest)
      | cons first others =>
        rw [parts] at inductionHypothesis
        cases others with
        | nil =>
          simpa [join] using inductionHypothesis
        | cons second remaining =>
          simpa [join] using inductionHypothesis

/-- The lines of a text with their newlines; only the last may lack one. -/
def terminated : List Char → List (List Char)
  | [] => []
  | character :: rest =>
    if character = '\n' then ['\n'] :: terminated rest
    else
      match terminated rest with
      | [] => [[character]]
      | first :: others => (character :: first) :: others

/-- A newline ends the first line. -/
theorem terminated_line {line : List Char} (rest : List Char) (single : '\n' ∉ line) :
    terminated (line ++ '\n' :: rest) = (line ++ ['\n']) :: terminated rest := by
  induction line with
  | nil => simp [terminated]
  | cons character line inductionHypothesis =>
    have other : character ≠ '\n' := fun same => single (by simp [same])
    have later := inductionHypothesis fun member => single (List.mem_cons_of_mem _ member)
    simp [terminated, other, later]

/-- The characters that end a line: line feed, vertical tab, form feed, carriage
    return, the three information separators, next line, line and paragraph separator. -/
def isLineBreak (character : Char) : Bool :=
  character ∈ ['\n', '\x0b', '\x0c', '\r', '\x1c', '\x1d', '\x1e', '\u0085', '\u2028', '\u2029']

/-- The lines of a text without their breaks. A carriage return and the line feed
    after it are one break. -/
def lines : List Char → List (List Char)
  | [] => []
  | '\r' :: '\n' :: rest => [] :: lines rest
  | character :: rest =>
    if isLineBreak character then [] :: lines rest
    else
      match lines rest with
      | [] => [[character]]
      | first :: others => (character :: first) :: others

/-- Read every way of ending a line, `\r\n` and a lone `\r`, as a newline. -/
def unifyNewlines : List Char → List Char
  | [] => []
  | '\r' :: '\n' :: rest => '\n' :: unifyNewlines rest
  | character :: rest =>
    (if character = '\r' then '\n' else character) :: unifyNewlines rest

end LintReview.Text
