import LintReview.Proofs.Source.Offsets
import LintReview.Proofs.Source.Suggestions
import LintReview.Proofs.Text.Returns
import LintReview.Source.Touched

/-!
# Files with returns

In a file with a return in front of each newline, every offset has the location that it has without
the returns, if the returns in front of it are added to it (`location?_returned`). What is suggested
is another matter: a line with a return is none of those of a text without returns, so nothing but
the last line is kept, and there are suggestions for at most the first row
(`suggestions_of_pair`, `suggestions_of_many`).
-/

namespace LintReview.Source

/-! ## Locations -/

/-- The return byte. -/
def carriage : UInt8 := 13

/-- An offset in the file with returns: one more for each newline in front of it. -/
def returnedOffset (content : List UInt8) (offset : Int) : Int :=
  offset + (content.take offset.toNat).count newline

/-- The length of a last line, which is no line if it is empty. -/
def lastLength (line : List UInt8) : List Int :=
  if line = [] then [] else [(line.length : Int) + 1]

theorem lineLengths_eq {content last : List UInt8} {front : List (List UInt8)}
    (parts : Text.split newline content = front ++ [last]) :
    lineLengths content =
      (front.map fun line => (line.length : Int) + 1) ++ lastLength last := by
  rw [lineLengths, byteLines, parts, List.getLast?_concat, List.dropLast_concat, lastLength]
  by_cases empty : last = []
  · rw [if_pos (congrArg some empty), if_pos empty, List.append_nil]
  · rw [if_neg (fun same => empty (Option.some.inj same)), if_neg empty, List.map_append]
    rfl

/-- With returns, each line is longer by one, but for the last. -/
theorem lineLengths_returned {content last : List UInt8} {front : List (List UInt8)}
    (parts : Text.split newline content = front ++ [last]) :
    lineLengths (Text.returned newline carriage content) =
      (front.map fun line => (line.length : Int) + 1).map (· + 1) ++ lastLength last := by
  rw [lineLengths_eq (Text.split_returned (by decide) parts), List.map_map, List.map_map]
  simp [Function.comp_def]

/-- Behind longer lines a row begins later, by one for each line above it. -/
theorem extent_raised {above : List Int} {ends : List Int} (few : ends.length ≤ 1) {index : Nat}
    {length : Int} (line : (above ++ ends)[index]? = some length) :
    (∃ longer, (above.map (· + 1) ++ ends)[index]? = some longer ∧ length ≤ longer) ∧
      extent ((above.map (· + 1) ++ ends).take index) =
        extent ((above ++ ends).take index) + index := by
  induction above generalizing index with
  | nil =>
    rw [List.nil_append] at line
    have first : index = 0 := by
      have bound := (List.getElem?_eq_some_iff.mp line).1
      omega
    subst first
    exact ⟨⟨length, line, Int.le_refl _⟩, by simp⟩
  | cons first rest inductionHypothesis =>
    cases index with
    | zero =>
      obtain rfl : first = length := Option.some.inj line
      exact ⟨⟨first + 1, rfl, by omega⟩, by simp⟩
    | succ index =>
      obtain ⟨longer, further⟩ := inductionHypothesis line
      refine ⟨longer, ?_⟩
      simp only [List.map_cons, List.cons_append, List.take_succ_cons, extent_cons, further]
      omega

theorem extent_raised_all (above ends : List Int) :
    extent (above.map (· + 1) ++ ends) = extent (above ++ ends) + above.length := by
  induction above with
  | nil => simp
  | cons first rest inductionHypothesis =>
    simp only [List.map_cons, List.cons_append, extent_cons, inductionHypothesis, List.length_cons]
    omega

/-- The location of an offset does not depend on the returns. -/
theorem location?_returned (content : List UInt8) (offset : Int) :
    location? (lineLengths (Text.returned newline carriage content))
        (returnedOffset content offset) =
      location? (lineLengths content) offset := by
  obtain ⟨front, last, parts⟩ := Text.exists_last_part newline content
  have few : (lastLength last).length ≤ 1 := by
    rw [lastLength]
    split <;> simp
  have positive := lineLengths_positive content
  have raisedPositive := lineLengths_positive (Text.returned newline carriage content)
  cases found : location? (lineLengths content) offset with
  | none =>
    have outside := (location?_eq_none_iff positive).mp found
    rw [location?_eq_none_iff raisedPositive, returnedOffset]
    rcases outside with below | behind
    · rw [Int.toNat_of_nonpos (Int.le_of_lt below)]
      exact .inl (by simpa using below)
    · -- All newlines are in front of the offset.
      have all : content.take offset.toNat = content := by
        rw [extent_lineLengths, places] at behind
        exact List.take_of_length_le (by omega)
      have newlines : content.count newline = front.length := by
        have pieces := Text.length_split newline content
        rw [parts, List.length_append, List.length_singleton] at pieces
        omega
      rw [lineLengths_eq parts] at behind
      rw [lineLengths_returned parts, extent_raised_all, all, newlines, List.length_map]
      exact .inr (by omega)
  | some location =>
    have newlines := (liesIn_of_location? found).1.above
    obtain ⟨⟨top, left, length, line, right⟩, place⟩ := (location?_eq_some_iff positive).mp found
    rw [lineLengths_eq parts] at line
    obtain ⟨⟨longer, raised, least⟩, begins⟩ := extent_raised few line
    rw [location?_eq_some_iff raisedPositive]
    refine ⟨⟨top, left, longer, lineLengths_returned parts ▸ raised, by omega⟩, ?_⟩
    rw [lineLengths_returned parts, Location.offset, begins, ← lineLengths_eq parts,
      returnedOffset, ← place, Location.offset]
    rw [Location.offset] at place
    rw [← place] at newlines
    omega

/-- The touched rows do not depend on the returns. -/
theorem touched_returned (content : List UInt8) (offsets : List Int) :
    touched (lineLengths (Text.returned newline carriage content))
        (offsets.map (returnedOffset content)) =
      touched (lineLengths content) offsets := by
  rw [touched, touched, List.filterMap_map]
  congr 1
  exact List.filterMap_congr fun offset _ => location?_returned content offset

/-! ## Alignments with little in common -/

section Alignment

variable {α : Type} [DecidableEq α]

/-- Lists that agree at their beginning have an item in common. -/
theorem exists_common_of_agreement {first second : List α} (agree : 0 < agreement first second) :
    ∃ item ∈ first, item ∈ second := by
  unfold agreement at agree
  split at agree
  · next item rest other others =>
    split at agree
    · next same => exact ⟨item, List.mem_cons_self, same ▸ List.mem_cons_self⟩
    · exact absurd agree (Nat.lt_irrefl 0)
  · exact absurd agree (Nat.lt_irrefl 0)

theorem agreement_eq_zero {first second : List α} (apart : ∀ item ∈ first, item ∉ second) :
    agreement first second = 0 := by
  by_contra some
  obtain ⟨item, one, two⟩ := exists_common_of_agreement (Nat.pos_of_ne_zero some)
  exact apart item one two

/-- Texts that have no line in common are changed as a whole. -/
theorem align_of_disjoint {old new : List α} (apart : ∀ line ∈ old, line ∉ new) :
    align old new = changeOf old new := by
  have none : ¬ 0 < (largestBlock old new).size := by
    intro some
    have common : (largestBlock old new).size ≤ agreement _ _ := largestBlock_isCommon old new
    rw [agreement_eq_zero fun line one two =>
      apart line (List.mem_of_mem_drop one) (List.mem_of_mem_drop two)] at common
    omega
  rw [align]
  exact dif_neg none

/-- Blocks that begin with a line that is not in the new text are empty. -/
theorem largestAt_of_not_mem {line : α} {rest new : List α} (absent : line ∉ new)
    (oldStart newStart : Nat) (best : Block) :
    largestAt (line :: rest) oldStart newStart new best = best := by
  induction new generalizing newStart with
  | nil => rfl
  | cons first others inductionHypothesis =>
    have empty : agreement (line :: rest) (first :: others) = 0 := by
      rw [agreement, if_neg (List.ne_of_not_mem_cons absent)]
    have kept : best.larger ⟨oldStart, newStart, 0⟩ = best := if_neg (Nat.not_lt_zero _)
    rw [largestAt, empty, kept, inductionHypothesis (List.not_mem_of_not_mem_cons absent)]

/-- Lines that are not in the new text are passed over. -/
theorem largestFrom_append {front rest new : List α} (apart : ∀ line ∈ front, line ∉ new)
    (oldStart : Nat) (best : Block) :
    largestFrom new oldStart (front ++ rest) best =
      largestFrom new (oldStart + front.length) rest best := by
  induction front generalizing oldStart with
  | nil => rfl
  | cons line others inductionHypothesis =>
    obtain ⟨here, later⟩ := List.forall_mem_cons.mp apart
    rw [List.cons_append, largestFrom, largestAt_of_not_mem here, inductionHypothesis later,
      List.length_cons]
    congr 1
    omega

/-- A block of one line is not replaced by another. -/
theorem largestAt_of_full {line : α} {new : List α} (oldStart newStart : Nat) {best : Block}
    (full : best.size = 1) : largestAt [line] oldStart newStart new best = best := by
  induction new generalizing newStart with
  | nil => rfl
  | cons first others inductionHypothesis =>
    have kept : best.larger ⟨oldStart, newStart, agreement [line] (first :: others)⟩ = best := by
      have bound : agreement [line] (first :: others) ≤ 1 := agreement_le_length _ _
      exact if_neg (by dsimp only; omega)
    rw [largestAt, kept, inductionHypothesis]

/-- A line is found where it stands first in the new text. -/
theorem largestAt_singleton {line : α} {before after : List α} (first : line ∉ before)
    (oldStart newStart : Nat) :
    largestAt [line] oldStart newStart (before ++ line :: after) ⟨0, 0, 0⟩ =
      ⟨oldStart, newStart + before.length, 1⟩ := by
  induction before generalizing newStart with
  | nil =>
    have agrees : agreement [line] (line :: after) = 1 := by
      rw [agreement, if_pos rfl, agreement]
      simp
    rw [List.nil_append, largestAt, agrees]
    exact largestAt_of_full _ _ rfl
  | cons other rest inductionHypothesis =>
    have empty : agreement [line] (other :: (rest ++ line :: after)) = 0 := by
      rw [agreement, if_neg (List.ne_of_not_mem_cons first)]
    have kept : Block.larger ⟨0, 0, 0⟩ ⟨oldStart, newStart, 0⟩ = ⟨0, 0, 0⟩ :=
      if_neg (Nat.lt_irrefl 0)
    rw [List.cons_append, largestAt, empty, kept,
      inductionHypothesis (List.not_mem_of_not_mem_cons first), List.length_cons]
    congr 1
    omega

/-- If no line but the last of a text is in the new one, the last line is kept where it first stands
    there, and the lines in front of it are changed as a whole. -/
theorem align_concat {front before after : List α} {last : α}
    (apart : ∀ line ∈ front, line ∉ before ++ last :: after) (first : last ∉ before) :
    align (front ++ [last]) (before ++ last :: after) =
      changeOf front before ++ .kept [last] :: changeOf [] after := by
  have block : largestBlock (front ++ [last]) (before ++ last :: after) =
      ⟨front.length, before.length, 1⟩ := by
    rw [largestBlock, largestFrom_append apart, largestFrom, largestFrom,
      largestAt_singleton first, Nat.zero_add, Nat.zero_add]
  have ahead : align front before = changeOf front before :=
    align_of_disjoint fun line one two => apart line one (List.mem_append_left _ two)
  have behind : align [] after = changeOf [] after :=
    align_of_disjoint fun line none => absurd none List.not_mem_nil
  rw [align]
  simp only [block, Nat.zero_lt_one, dif_pos]
  rw [List.take_left, List.take_left, List.drop_left, ahead]
  simp [behind, ← List.drop_drop]

end Alignment

/-! ## Suggestions for lines with returns -/

/-- The lines of a text without returns. -/
theorem cutLines_ofList (text : List Char) :
    cutLines (String.ofList text) = (Text.split '\n' text).map String.ofList := by
  rw [cutLines, String.toList_ofList]

/-- In a text with returns, all lines but the last end in one. -/
theorem cutLines_returned {text last : List Char} {front : List (List Char)}
    (parts : Text.split '\n' text = front ++ [last]) :
    cutLines (String.ofList (Text.returned '\n' '\r' text)) =
      front.map (fun line => String.ofList (line ++ ['\r'])) ++ [String.ofList last] := by
  rw [cutLines_ofList, Text.split_returned (by decide) parts, List.map_append, List.map_map]
  rfl

/-- A line that ends in a return is not in a text without returns. -/
theorem returned_not_mem_cutLines {formatted : List Char} (plain : '\r' ∉ formatted)
    (line : List Char) : String.ofList (line ++ ['\r']) ∉ cutLines (String.ofList formatted) := by
  rw [cutLines_ofList]
  intro member
  obtain ⟨part, inside, same⟩ := List.mem_map.mp member
  have ending : '\r' ∈ part := by
    rw [String.ofList_injective same]
    exact List.mem_append_right _ List.mem_cons_self
  exact plain (Text.mem_of_mem_split inside ending)

/-- There is no suggestion for a change of several lines, and none for what is added behind them. -/
theorem suggestionsBelow_several {above : Nat} {front new : List String}
    (several : 2 ≤ front.length) {rest : List (Segment String)}
    (none : ∀ further, suggestionsBelow further rest = []) :
    suggestionsBelow above (changeOf front new ++ rest) = [] := by
  obtain ⟨first, second, others, rfl⟩ :
      ∃ first second others, front = first :: second :: others := by
    match front, several with
    | first :: second :: others, _ => exact ⟨first, second, others, rfl⟩
  exact none _

/-- There is no suggestion for a line that is kept, and none for what is added behind it. -/
theorem suggestionsBelow_kept (above : Nat) (last : String) (after : List String) :
    suggestionsBelow above (.kept [last] :: changeOf [] after) = [] := by
  cases after <;> simp [changeOf, suggestionsBelow]

/-- There are no suggestions for several lines that are not in the formatted text, whatever the line
    behind them is. -/
theorem suggestions_of_many {current formatted last : String} {front : List String}
    (lines : cutLines current = front ++ [last]) (several : 2 ≤ front.length)
    (apart : ∀ line ∈ front, line ∉ cutLines formatted) : suggestions current formatted = [] := by
  rw [suggestions, lines]
  by_cases kept : last ∈ cutLines formatted
  · obtain ⟨before, after, whole, first⟩ := List.eq_append_cons_of_mem kept
    rw [whole] at apart ⊢
    rw [align_concat apart first]
    exact suggestionsBelow_several several fun above => suggestionsBelow_kept above last after
  · have disjoint : ∀ line ∈ front ++ [last], line ∉ cutLines formatted := by
      simpa only [List.forall_mem_append, List.forall_mem_singleton] using ⟨apart, kept⟩
    have more : 2 ≤ (front ++ [last]).length := by
      rw [List.length_append]
      omega
    rw [align_of_disjoint disjoint, ← List.append_nil (changeOf _ _)]
    exact suggestionsBelow_several more fun _ => rfl

/-- The first of two lines, if it is not in the formatted text, gives way to the lines that stand in
    front of the other there. There is no suggestion if the other is not there either. -/
theorem suggestions_of_pair {current formatted line last : String}
    (lines : cutLines current = [line, last]) (apart : line ∉ cutLines formatted) (row : Nat) :
    (suggested? (suggestions current formatted) row).getD "" =
      if row = 1 ∧ last ∈ cutLines formatted then
        joinLines ((cutLines formatted).takeWhile (· ≠ last))
      else "" := by
  rw [suggestions, lines]
  by_cases kept : last ∈ cutLines formatted
  · obtain ⟨before, after, whole, first⟩ := List.eq_append_cons_of_mem kept
    have front : (cutLines formatted).takeWhile (· ≠ last) = before := by
      rw [whole, List.takeWhile_append_of_pos, List.takeWhile_cons_of_neg, List.append_nil]
      · simp
      · intro other member
        exact decide_eq_true fun same => first (same ▸ member)
    have segments : align [line, last] (cutLines formatted) =
        changeOf [line] before ++ .kept [last] :: changeOf [] after := by
      rw [whole] at apart ⊢
      have known := align_concat (List.forall_mem_singleton.mpr apart) first
      exact known
    rw [front, segments]
    cases before with
    | nil =>
      have none : suggestionsBelow 0 (changeOf [line] [] ++ .kept [last] :: changeOf [] after) =
          [] := suggestionsBelow_kept _ last after
      rw [none]
      simp [suggested?, joinLines, Text.join]
    | cons one others =>
      have single : suggestionsBelow 0
          (changeOf [line] (one :: others) ++ .kept [last] :: changeOf [] after) =
            [⟨1, joinLines (one :: others)⟩] := by
        rw [changeOf, List.singleton_append, suggestionsBelow, suggestionsBelow_kept]
        simp
      rw [single]
      by_cases same : row = 1
      · subst same
        simp [suggested?, kept]
      · simp [suggested?, same, Ne.symm same]
  · have disjoint : ∀ other ∈ [line, last], other ∉ cutLines formatted := by
      simpa using ⟨apart, kept⟩
    have several : 2 ≤ [line, last].length := Nat.le_refl 2
    have none : suggestionsBelow 0 (align [line, last] (cutLines formatted)) = [] := by
      rw [align_of_disjoint disjoint, ← List.append_nil (changeOf _ _)]
      exact suggestionsBelow_several several fun _ => rfl
    rw [none, if_neg (mt And.right kept)]
    rfl

end LintReview.Source
