import LintReview.Proofs.Text.Parts
import LintReview.Source.Suggestion

/-!
# What suggestions say

Each suggestion is for a row of its own, and its lines stand in the formatted text, none of them
the line that they replace: an alignment takes up the longest common block, so where lines change
nothing is left in common. If all changes are of one line for others, the suggestions together
turn the text into the formatted one (`suggestions_sound`).
-/

namespace LintReview.Source

section Alignment

variable {α : Type} [DecidableEq α]

/-- Neither of two blocks is larger than the larger. -/
theorem Block.size_le_larger (best next : Block) :
    best.size ≤ (best.larger next).size ∧ next.size ≤ (best.larger next).size := by
  unfold Block.larger
  split <;> omega

/-- The largest of some blocks is no smaller than the one that is known, nor than any of them. -/
theorem agreement_le_largestAt (old : List α) (oldStart newStart : Nat) (new : List α)
    (best : Block) :
    best.size ≤ (largestAt old oldStart newStart new best).size ∧
      ∀ index < new.length,
        agreement old (new.drop index) ≤ (largestAt old oldStart newStart new best).size := by
  induction new generalizing newStart best with
  | nil =>
    refine ⟨Nat.le_refl _, ?_⟩
    intro index inside
    cases inside
  | cons line rest inductionHypothesis =>
    let here : Block := ⟨oldStart, newStart, agreement old (line :: rest)⟩
    obtain ⟨known, found⟩ := best.size_le_larger here
    obtain ⟨kept, others⟩ := inductionHypothesis (newStart + 1) (best.larger here)
    refine ⟨Nat.le_trans known kept, ?_⟩
    intro index inside
    cases index with
    | zero => exact Nat.le_trans found kept
    | succ index => exact others index (Nat.lt_of_succ_lt_succ inside)

theorem agreement_le_largestFrom (new : List α) (oldStart : Nat) (old : List α) (best : Block) :
    best.size ≤ (largestFrom new oldStart old best).size ∧
      ∀ row < old.length, ∀ index < new.length,
        agreement (old.drop row) (new.drop index) ≤ (largestFrom new oldStart old best).size := by
  induction old generalizing oldStart best with
  | nil =>
    refine ⟨Nat.le_refl _, ?_⟩
    intro row inside
    cases inside
  | cons line rest inductionHypothesis =>
    let here := largestAt (line :: rest) oldStart 0 new best
    obtain ⟨known, found⟩ := agreement_le_largestAt (line :: rest) oldStart 0 new best
    obtain ⟨kept, others⟩ := inductionHypothesis (oldStart + 1) here
    refine ⟨Nat.le_trans known kept, ?_⟩
    intro row inside index within
    cases row with
    | zero => exact Nat.le_trans (found index within) kept
    | succ row => exact others row (Nat.lt_of_succ_lt_succ inside) index within

/-- Texts without a common block have no line in common. -/
theorem not_mem_of_largestBlock {old new : List α} (none : ¬ 0 < (largestBlock old new).size)
    {line : α} (before : line ∈ old) : line ∉ new := by
  intro after
  obtain ⟨row, inside, rfl⟩ := List.getElem_of_mem before
  obtain ⟨index, within, same⟩ := List.getElem_of_mem after
  have bound := (agreement_le_largestFrom new 0 old ⟨0, 0, 0⟩).2 row inside index within
  have agreed : 0 < agreement (old.drop row) (new.drop index) := by
    rw [List.drop_eq_getElem_cons inside, List.drop_eq_getElem_cons within, agreement,
      if_pos same.symm]
    exact Nat.succ_pos _
  exact none (Nat.lt_of_lt_of_le agreed bound)

/-- Where an alignment changes lines, the old and the new ones have none in common. -/
theorem not_mem_of_mem_align {old new olds news : List α}
    (changes : Segment.changed olds news ∈ align old new) {line : α} (before : line ∈ olds) :
    line ∉ news := by
  fun_induction align old new with
  | case1 old new block positive earlier later =>
    rcases List.mem_append.mp changes with above | below
    · exact earlier above
    · rcases List.mem_cons.mp below with kept | below
      · cases kept
      · exact later below
  | case2 old new block none =>
    have whole : olds = old ∧ news = new := by
      cases old <;> cases new <;> simp_all [changeOf]
    obtain ⟨rfl, rfl⟩ := whole
    exact not_mem_of_largestBlock none before

end Alignment

/-! ## Texts and their lines -/

/-- The lines of a text hold no newline. -/
theorem not_mem_of_mem_cutLines {text line : String} (member : line ∈ cutLines text) :
    '\n' ∉ line.toList := by
  obtain ⟨part, inside, rfl⟩ := List.mem_map.mp member
  rw [String.toList_ofList]
  exact Text.not_mem_of_mem_split inside

/-- Lines without newlines are those of the text that they make up. -/
theorem cutLines_joinLines {lines : List String} (some : lines ≠ [])
    (plain : ∀ line ∈ lines, '\n' ∉ line.toList) : cutLines (joinLines lines) = lines := by
  have parts : Text.split '\n' (joinLines lines).toList = lines.map String.toList := by
    rw [joinLines, String.toList_ofList]
    refine Text.split_join (by simpa using some) ?_
    intro part member
    obtain ⟨line, inside, rfl⟩ := List.mem_map.mp member
    exact plain line inside
  rw [cutLines, parts, List.map_map]
  refine (List.map_congr_left fun line _ => ?_).trans (List.map_id lines)
  exact String.ofList_toList

/-! ## Segments and their suggestions -/

/-- Blocks stand in a list one behind the other, with anything between them. -/
inductive InOrder {α : Type} : List (List α) → List α → Prop where
  | none (items : List α) : InOrder [] items
  | next (gap block : List α) {blocks : List (List α)} {items : List α}
      (later : InOrder blocks items) : InOrder (block :: blocks) (gap ++ block ++ items)

/-- More in front of a list adds to the gap before its first block. -/
theorem InOrder.append_left {α : Type} {blocks : List (List α)} {items : List α}
    (inside : InOrder blocks items) (front : List α) : InOrder blocks (front ++ items) := by
  cases inside with
  | none => exact .none _
  | next gap block later =>
    rw [List.append_assoc, ← List.append_assoc front, ← List.append_assoc]
    exact .next (front ++ gap) block later

/-- The new lines of a segment without newlines. -/
def Segment.IsPlain (segment : Segment String) : Prop :=
  ∀ line ∈ segment.newLines, '\n' ∉ line.toList

/-- The segment leaves its lines as they are, or replaces one line by others. -/
def Segment.ReplacesOne {α : Type} : Segment α → Prop
  | .kept _ => True
  | .changed [_] (_ :: _) => True
  | .changed _ _ => False

/-- Lines of which the first has the given row, with the suggested ones in the place of every row
    for which there is a suggestion. -/
def replaceSuggested (known : List Suggestion) : Nat → List String → List String
  | _, [] => []
  | row, line :: rest =>
    (match suggested? known row with
      | some text => cutLines text
      | none => [line]) ++ replaceSuggested known (row + 1) rest

/-- The rows of suggestions increase. -/
theorem suggestionsBelow_increasing (above : Nat) (segments : List (Segment String)) :
    (suggestionsBelow above segments).Pairwise (·.row < ·.row) := by
  fun_induction suggestionsBelow above segments with
  | case1 => exact .nil
  | case2 above old first others rest inductionHypothesis =>
    exact .cons (fun suggestion later => above_lt_row later) inductionHypothesis
  | case3 above segment rest _ inductionHypothesis => exact inductionHypothesis

/-- A suggestion comes from a segment that replaces one line. Its row is the one below the old
    lines of the segments in front of it. -/
theorem exists_segment {above : Nat} {segments : List (Segment String)} {suggestion : Suggestion}
    (suggests : suggestion ∈ suggestionsBelow above segments) :
    ∃ earlier line first others later,
      segments = earlier ++ .changed [line] (first :: others) :: later ∧
        suggestion = ⟨above + (earlier.flatMap Segment.oldLines).length + 1,
          joinLines (first :: others)⟩ := by
  fun_induction suggestionsBelow above segments with
  | case1 => cases suggests
  | case2 above old first others rest inductionHypothesis =>
    rcases List.mem_cons.mp suggests with rfl | later
    · exact ⟨[], old, first, others, rest, rfl, rfl⟩
    · obtain ⟨earlier, line, another, more, below, rfl, rfl⟩ := inductionHypothesis later
      refine ⟨.changed [old] (first :: others) :: earlier, line, another, more, below, rfl, ?_⟩
      simp only [List.flatMap_cons, Segment.oldLines, List.length_append, List.length_singleton,
        Suggestion.mk.injEq, and_true]
      omega
  | case3 above segment rest _ inductionHypothesis =>
    obtain ⟨earlier, line, first, others, later, rfl, rfl⟩ := inductionHypothesis suggests
    refine ⟨segment :: earlier, line, first, others, later, rfl, ?_⟩
    simp only [List.flatMap_cons, List.length_append, Suggestion.mk.injEq, and_true]
    omega

/-- The suggested lines stand among the new lines of the segments, in the order of their rows. -/
theorem suggestionsBelow_inOrder (above : Nat) {segments : List (Segment String)}
    (plain : ∀ segment ∈ segments, segment.IsPlain) :
    InOrder ((suggestionsBelow above segments).map fun suggestion => cutLines suggestion.text)
      (segments.flatMap Segment.newLines) := by
  fun_induction suggestionsBelow above segments with
  | case1 => exact .none _
  | case2 above old first others rest inductionHypothesis =>
    obtain ⟨here, later⟩ := List.forall_mem_cons.mp plain
    have lines : cutLines (joinLines (first :: others)) = first :: others :=
      cutLines_joinLines (List.cons_ne_nil first others) here
    rw [List.map_cons, lines, List.flatMap_cons]
    exact .next [] (first :: others) (inductionHypothesis later)
  | case3 above segment rest _ inductionHypothesis =>
    rw [List.flatMap_cons]
    exact (inductionHypothesis (List.forall_mem_cons.mp plain).2).append_left segment.newLines

/-- A row above all suggested ones has no suggestion. -/
theorem suggested?_eq_none {known : List Suggestion} {row : Nat}
    (below : ∀ suggestion ∈ known, row < suggestion.row) : suggested? known row = none := by
  rw [suggested?, Option.map_eq_none_iff, List.find?_eq_none]
  intro suggestion member same
  have apart := below suggestion member
  have equal : suggestion.row = row := of_decide_eq_true same
  omega

/-- The first suggestion is for the rows below it as if it were not there. -/
theorem suggested?_cons_of_lt {suggestion : Suggestion} {known : List Suggestion} {row : Nat}
    (below : suggestion.row < row) :
    suggested? (suggestion :: known) row = suggested? known row := by
  rw [suggested?, List.find?_cons_of_neg (by simpa using Nat.ne_of_lt below), suggested?]

/-- So it does not matter for lines below it. -/
theorem replaceSuggested_cons_of_lt {suggestion : Suggestion} {known : List Suggestion} {row : Nat}
    (below : suggestion.row < row) (lines : List String) :
    replaceSuggested (suggestion :: known) row lines = replaceSuggested known row lines := by
  induction lines generalizing row with
  | nil => rfl
  | cons line rest inductionHypothesis =>
    rw [replaceSuggested, replaceSuggested, suggested?_cons_of_lt below,
      inductionHypothesis (Nat.lt_succ_of_lt below)]

/-- Lines above all suggested rows stay. -/
theorem replaceSuggested_append {known : List Suggestion} {row : Nat} (lines rest : List String)
    (below : ∀ suggestion ∈ known, row + lines.length ≤ suggestion.row) :
    replaceSuggested known row (lines ++ rest) =
      lines ++ replaceSuggested known (row + lines.length) rest := by
  induction lines generalizing row with
  | nil => rfl
  | cons line others inductionHypothesis =>
    simp only [List.length_cons] at below
    have none : suggested? known row = none :=
      suggested?_eq_none fun suggestion member => by
        have apart := below suggestion member
        omega
    have later : ∀ suggestion ∈ known, row + 1 + others.length ≤ suggestion.row :=
      fun suggestion member => by
        have apart := below suggestion member
        omega
    rw [List.cons_append, replaceSuggested, none, inductionHypothesis later, List.length_cons,
      Nat.add_comm others.length 1, ← Nat.add_assoc]
    rfl

/-- If every segment replaces at most one line, the suggestions turn the old lines into the new
    ones. -/
theorem replaceSuggested_segments (above : Nat) {segments : List (Segment String)}
    (plain : ∀ segment ∈ segments, segment.IsPlain)
    (single : ∀ segment ∈ segments, segment.ReplacesOne) :
    replaceSuggested (suggestionsBelow above segments) (above + 1)
      (segments.flatMap Segment.oldLines) = segments.flatMap Segment.newLines := by
  fun_induction suggestionsBelow above segments with
  | case1 => rfl
  | case2 above old first others rest inductionHypothesis =>
    obtain ⟨here, later⟩ := List.forall_mem_cons.mp plain
    have lines : cutLines (joinLines (first :: others)) = first :: others :=
      cutLines_joinLines (List.cons_ne_nil first others) here
    have found : suggested? (⟨above + 1, joinLines (first :: others)⟩ ::
        suggestionsBelow (above + 1) rest) (above + 1) = some (joinLines (first :: others)) := by
      simp [suggested?]
    rw [List.flatMap_cons, List.flatMap_cons]
    change replaceSuggested _ _ (old :: rest.flatMap Segment.oldLines) = _
    rw [replaceSuggested, found, replaceSuggested_cons_of_lt (Nat.lt_succ_self _),
      inductionHypothesis later (List.forall_mem_cons.mp single).2]
    exact congrArg (· ++ _) lines
  | case3 above segment rest other inductionHypothesis =>
    obtain ⟨here, later⟩ := List.forall_mem_cons.mp single
    have below : ∀ suggestion ∈ suggestionsBelow (above + segment.oldLines.length) rest,
        above + 1 + segment.oldLines.length ≤ suggestion.row := fun suggestion member => by
      have apart := above_lt_row member
      omega
    have kept : segment.newLines = segment.oldLines := by
      cases segment with
      | kept lines => rfl
      | changed olds news =>
        unfold Segment.ReplacesOne at here
        split at here
        · next same => cases same
        · next line first others same =>
          obtain ⟨rfl, rfl⟩ := Segment.changed.inj same
          exact (other line first others rfl).elim
        · exact here.elim
    rw [List.flatMap_cons, List.flatMap_cons, replaceSuggested_append _ _ below, kept,
      Nat.add_right_comm, inductionHypothesis (List.forall_mem_cons.mp plain).2 later]

/-- The segments of an alignment have the lines of the texts. -/
theorem isPlain_align (before : List String) (formatted : String) :
    ∀ segment ∈ align before (cutLines formatted), segment.IsPlain := by
  intro segment member line inside
  have among : line ∈ cutLines formatted := by
    rw [← newLines_align before (cutLines formatted)]
    exact List.mem_flatMap.mpr ⟨segment, member, inside⟩
  exact not_mem_of_mem_cutLines among

/-- Suggestions are for increasing rows of the text. The suggested lines stand in the formatted
    text, in this order and apart from each other, and never hold the line they replace. Where all
    changes replace one line each, they give the formatted text. -/
theorem suggestions_sound (original formatted : String) :
    (suggestions original formatted).Pairwise (·.row < ·.row) ∧
    (∀ suggestion ∈ suggestions original formatted,
      1 ≤ suggestion.row ∧ suggestion.row ≤ (cutLines original).length ∧
      cutLines suggestion.text ≠ [] ∧
      ∃ line, (cutLines original)[suggestion.row - 1]? = some line ∧
        line ∉ cutLines suggestion.text) ∧
    InOrder ((suggestions original formatted).map fun suggestion => cutLines suggestion.text)
      (cutLines formatted) ∧
    ((∀ segment ∈ align (cutLines original) (cutLines formatted), segment.ReplacesOne) →
      replaceSuggested (suggestions original formatted) 1 (cutLines original) =
        cutLines formatted) := by
  have plain := isPlain_align (cutLines original) formatted
  have olds := oldLines_align (cutLines original) (cutLines formatted)
  have news := newLines_align (cutLines original) (cutLines formatted)
  refine ⟨suggestionsBelow_increasing 0 _, ?each, ?order, ?replaced⟩
  case each =>
    intro suggestion member
    obtain ⟨earlier, line, first, others, later, parts, rfl⟩ := exists_segment member
    have segment : Segment.changed [line] (first :: others) ∈
        align (cutLines original) (cutLines formatted) := parts ▸ by simp
    have lines : cutLines (joinLines (first :: others)) = first :: others :=
      cutLines_joinLines (List.cons_ne_nil first others) (plain _ segment)
    have place : cutLines original = earlier.flatMap Segment.oldLines ++
        line :: later.flatMap Segment.oldLines := by
      rw [← olds, parts, List.flatMap_append, List.flatMap_cons]
      rfl
    dsimp only
    rw [Nat.zero_add, Nat.add_sub_cancel, place, lines]
    refine ⟨Nat.le_add_left 1 _, ?_, List.cons_ne_nil first others, line, by simp,
      not_mem_of_mem_align segment List.mem_cons_self⟩
    rw [List.length_append, List.length_cons]
    omega
  case order =>
    have inside := suggestionsBelow_inOrder 0 plain
    rw [news] at inside
    exact inside
  case replaced =>
    intro single
    have replaced := replaceSuggested_segments 0 plain single
    rw [olds, news] at replaced
    exact replaced

/-- A line that gives way to two, between lines that are the same: the second of the two is
    empty. -/
theorem suggestions_sound_splitLine :
    (∀ segment ∈ align (cutLines "a\nb\na") (cutLines "a\nx\n\na"), segment.ReplacesOne) ∧
      suggestions "a\nb\na" "a\nx\n\na" = [⟨2, "x\n"⟩] ∧
      InOrder [["x", ""]] ["a", "x", "", "a"] ∧
      replaceSuggested [⟨2, "x\n"⟩] 1 ["a", "b", "a"] = ["a", "x", "", "a"] := by
  have segments : align (cutLines "a\nb\na") (cutLines "a\nx\n\na") =
      [.kept ["a"], .changed ["b"] ["x", ""], .kept ["a"]] := by cbv
  have single : ∀ segment ∈ align (cutLines "a\nb\na") (cutLines "a\nx\n\na"),
      segment.ReplacesOne := by
    simp [segments, Segment.ReplacesOne]
  have found : suggestions "a\nb\na" "a\nx\n\na" = [⟨2, "x\n"⟩] := by
    rw [suggestions, segments]
    rfl
  obtain ⟨-, -, order, replaced⟩ := suggestions_sound "a\nb\na" "a\nx\n\na"
  have lines : cutLines "a\nb\na" = ["a", "b", "a"] ∧ cutLines "a\nx\n\na" = ["a", "x", "", "a"] ∧
      cutLines "x\n" = ["x", ""] := by decide
  rw [found, lines.2.1] at order
  have result := replaced single
  rw [found, lines.1, lines.2.1] at result
  exact ⟨single, found, lines.2.2 ▸ order, result⟩

end LintReview.Source
