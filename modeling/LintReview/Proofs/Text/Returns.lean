import LintReview.Proofs.Text.Lines
import LintReview.Proofs.Text.Parts
import LintReview.Proofs.Text.Utf8

/-!
# Returns in front of newlines

A text may have a return in front of each of its newlines. It is the same whether the returns are
put into the text or into its bytes (`encode_returned`). The returns stand at the ends of the lines,
but not of the last (`split_returned`), and are gone when newlines are unified
(`unifyNewlines_returned`).
-/

namespace LintReview.Text

section Items

variable {α : Type} [DecidableEq α] {newline carriage : α}

/-- Items with a return in front of each newline. -/
def returned (newline carriage : α) (items : List α) : List α :=
  items.flatMap fun item => if item = newline then [carriage, newline] else [item]

@[simp]
theorem returned_newline (rest : List α) :
    returned newline carriage (newline :: rest) =
      carriage :: newline :: returned newline carriage rest := by
  rw [returned, List.flatMap_cons, if_pos rfl]
  rfl

theorem returned_cons {item : α} (other : item ≠ newline) (rest : List α) :
    returned newline carriage (item :: rest) = item :: returned newline carriage rest := by
  rw [returned, List.flatMap_cons, if_neg other]
  rfl

@[simp]
theorem returned_append (first second : List α) :
    returned newline carriage (first ++ second) =
      returned newline carriage first ++ returned newline carriage second :=
  List.flatMap_append

/-- Without a newline there is nothing to put in. -/
theorem returned_of_not_mem {items : List α} (plain : newline ∉ items) :
    returned newline carriage items = items := by
  induction items with
  | nil => rfl
  | cons item rest inductionHypothesis =>
    rw [returned_cons (List.ne_of_not_mem_cons plain).symm,
      inductionHypothesis (List.not_mem_of_not_mem_cons plain)]

/-- The lines end in the returns. Behind the last of them there is no newline, and so no return. -/
theorem returned_join {front : List (List α)} {last : List α}
    (plain : ∀ line ∈ front ++ [last], newline ∉ line) :
    returned newline carriage (join [newline] (front ++ [last])) =
      join [newline] (front.map (· ++ [carriage]) ++ [last]) := by
  induction front with
  | nil => exact returned_of_not_mem (plain last List.mem_cons_self)
  | cons line rest inductionHypothesis =>
    obtain ⟨here, later⟩ := List.forall_mem_cons.mp plain
    have split (lines : List (List α)) (line : List α) :
        join [newline] (line :: (lines ++ [last])) =
          line ++ newline :: join [newline] (lines ++ [last]) := by
      obtain ⟨second, others, same⟩ := List.exists_cons_of_ne_nil
        (List.append_ne_nil_of_right_ne_nil lines (List.cons_ne_nil last []))
      rw [same, join_cons_cons, List.append_assoc, List.singleton_append]
    rw [List.cons_append, split, returned_append, returned_of_not_mem here, returned_newline,
      inductionHypothesis later, List.map_cons, List.cons_append, split, List.append_assoc,
      List.singleton_append]

/-- Cut at newlines, each part but the last has a return at its end. -/
theorem split_returned (different : carriage ≠ newline) {items last : List α}
    {front : List (List α)} (parts : split newline items = front ++ [last]) :
    split newline (returned newline carriage items) = front.map (· ++ [carriage]) ++ [last] := by
  have some (lines : List (List α)) : lines ++ [last] ≠ [] :=
    List.append_ne_nil_of_right_ne_nil lines (List.cons_ne_nil last [])
  obtain ⟨plain, rfl⟩ := (split_eq_iff (some front)).mp parts
  rw [returned_join plain]
  refine split_join (some _) fun line member => ?_
  rcases List.mem_append.mp member with inside | ending
  · obtain ⟨bare, among, rfl⟩ := List.mem_map.mp inside
    rw [List.mem_append, List.mem_singleton, not_or]
    exact ⟨plain bare (List.mem_append_left _ among), different.symm⟩
  · exact plain line (List.mem_append_right _ ending)

end Items

/-- The bytes of a character that has several are all from 128 on. -/
theorem encodeCharacter_high {character : Char} (wide : 0x80 ≤ character.toNat) :
    ∀ byte ∈ encodeCharacter character, 0x80 ≤ byte.toNat := by
  have scalar := scalar_bounds character
  have high {value : Nat} (least : 0x80 ≤ value) (most : value < 256) :
      0x80 ≤ (UInt8.ofNat value).toNat := by
    rw [toNat_byte most]
    exact least
  unfold encodeCharacter
  generalize character.toNat = code at wide scalar
  dsimp only
  rw [if_neg (Nat.not_lt.mpr wide)]
  split
  · simp only [List.forall_mem_cons]
    exact ⟨high (by omega) (by omega), high (by omega) (by omega), by simp⟩
  · split
    · simp only [List.forall_mem_cons]
      exact ⟨high (by omega) (by omega), high (by omega) (by omega), high (by omega) (by omega),
        by simp⟩
    · simp only [List.forall_mem_cons]
      exact ⟨high (by omega) (by omega), high (by omega) (by omega), high (by omega) (by omega),
        high (by omega) (by omega), by simp⟩

/-- The only character with a newline among its bytes is the newline. -/
theorem newline_not_mem_encodeCharacter {character : Char} (other : character ≠ '\n') :
    (10 : UInt8) ∉ encodeCharacter character := by
  intro member
  by_cases wide : 0x80 ≤ character.toNat
  · exact absurd (encodeCharacter_high wide 10 member) (by decide)
  · have narrow : character.toNat < 0x80 := Nat.lt_of_not_le wide
    have same : character.toNat = 10 := by
      rw [encodeCharacter, if_pos narrow, List.mem_singleton] at member
      have number := congrArg UInt8.toNat member
      rw [toNat_byte (by omega)] at number
      exact number.symm
    exact other (Char.toNat_inj.mp same)

/-- The returns of a text are those of its bytes. -/
theorem encode_returned (text : List Char) :
    encode (returned '\n' '\r' text) = returned 10 13 (encode text) := by
  induction text with
  | nil => rfl
  | cons character rest inductionHypothesis =>
    by_cases newline : character = '\n'
    · subst newline
      rw [returned_newline, encode, encode, List.flatMap_cons, List.flatMap_cons, List.flatMap_cons,
        ← encode, ← encode, inductionHypothesis, returned_append]
      rfl
    · rw [returned_cons newline, encode, encode, List.flatMap_cons, List.flatMap_cons, ← encode,
        ← encode, inductionHypothesis, returned_append,
        returned_of_not_mem (newline_not_mem_encodeCharacter newline)]

/-- The returns are gone when newlines are unified. -/
theorem unifyNewlines_returned {text : List Char} (plain : '\r' ∉ text) :
    unifyNewlines (returned '\n' '\r' text) = text := by
  induction text with
  | nil => rfl
  | cons character rest inductionHypothesis =>
    have later := inductionHypothesis (List.not_mem_of_not_mem_cons plain)
    have other : character ≠ '\r' := (List.ne_of_not_mem_cons plain).symm
    by_cases newline : character = '\n'
    · subst newline
      rw [returned_newline, unifyNewlines, later]
    · rw [returned_cons newline, unifyNewlines, if_neg other, later]
      rintro remaining rfl
      exact fun _ => other rfl

end LintReview.Text
