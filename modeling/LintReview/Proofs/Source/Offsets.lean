import LintReview.Proofs.Text.Parts
import LintReview.Source.Offset
import Mathlib.Data.List.Basic

/-!
# Offsets and locations

The rows and columns of a file are its offsets in other words. The lines put behind one another
give the offset of a location back, every location inside the lines is that of exactly one
offset, and a larger offset lies in a later row or further right (`locations_of_offsets`).

A file that does not end in a newline is located as if it did, so it has one offset more than it
has bytes. An empty file has none.
-/

namespace LintReview.Source

/-! ## Lines with any lengths -/

/-- The length of some lines together. -/
def extent (lengths : List Int) : Int := lengths.foldr (· + ·) 0

@[simp]
theorem extent_nil : extent [] = 0 := rfl

@[simp]
theorem extent_cons (length : Int) (rest : List Int) :
    extent (length :: rest) = length + extent rest := rfl

/-- Lines of any length take up some room. -/
theorem extent_nonneg {lengths : List Int} (positive : ∀ length ∈ lengths, 0 < length) :
    0 ≤ extent lengths := by
  induction lengths with
  | nil => exact Int.le_refl 0
  | cons length rest inductionHypothesis =>
    obtain ⟨here, later⟩ := List.forall_mem_cons.mp positive
    have further := inductionHypothesis later
    rw [extent_cons]
    omega

/-- The lines in front of a row, and a line among them, take up less than those in front of a
    later row. -/
theorem extent_take_add_le {lengths : List Int} (positive : ∀ length ∈ lengths, 0 < length)
    {index other : Nat} {length : Int} (line : lengths[index]? = some length)
    (later : index < other) :
    extent (lengths.take index) + length ≤ extent (lengths.take other) := by
  induction lengths generalizing index other with
  | nil => cases line
  | cons first rest inductionHypothesis =>
    obtain ⟨-, others⟩ := List.forall_mem_cons.mp positive
    obtain ⟨other, rfl⟩ : ∃ fewer, other = fewer + 1 := ⟨other - 1, by omega⟩
    rw [List.take_succ_cons, extent_cons]
    cases index with
    | zero =>
      obtain rfl : first = length := Option.some.inj line
      have further : 0 ≤ extent (rest.take other) :=
        extent_nonneg fun _ member => others _ (List.mem_of_mem_take member)
      rw [List.take_zero, extent_nil]
      omega
    | succ index =>
      have further := inductionHypothesis others line (Nat.lt_of_succ_lt_succ later)
      rw [List.take_succ_cons, extent_cons]
      omega

/-- A location in lines with the given lengths: one of their rows, and one of its columns. -/
structure Location.IsIn (lengths : List Int) (location : Location) : Prop where
  row : 1 ≤ location.row
  first : 1 ≤ location.column
  last : ∃ length, lengths[location.row - 1]? = some length ∧ location.column ≤ length

/-- The offset of a location: the lines above its row, and the columns in front of its own. -/
def Location.offset (lengths : List Int) (location : Location) : Int :=
  extent (lengths.take (location.row - 1)) + (location.column - 1)

/-- An offset is located in the line that reaches over it. The lines above end in front of it. -/
theorem locationFrom_eq_some_iff {lengths : List Int}
    (positive : ∀ length ∈ lengths, 0 < length) {start offset column : Int} {row found : Nat} :
    locationFrom start row offset lengths = some ⟨found, column⟩ ↔
      ∃ index length, lengths[index]? = some length ∧ found = row + index ∧
        1 ≤ column ∧ column ≤ length ∧
        offset = start + extent (lengths.take index) + (column - 1) := by
  induction lengths generalizing start row with
  | nil => simp [locationFrom]
  | cons first rest inductionHypothesis =>
    obtain ⟨here, later⟩ := List.forall_mem_cons.mp positive
    rw [locationFrom]
    split
    · next inside =>
      rw [Option.some.injEq, Location.mk.injEq]
      constructor
      · rintro ⟨rfl, rfl⟩
        refine ⟨0, first, rfl, rfl, ?_⟩
        rw [List.take_zero, extent_nil]
        omega
      · rintro ⟨index, length, line, rfl, left, right, place⟩
        -- A later line would begin behind the offset.
        have only : index = 0 := by
          by_contra above
          have behind : extent ((first :: rest).take 0) + first ≤
              extent ((first :: rest).take index) :=
            extent_take_add_le positive rfl (by omega)
          rw [List.take_zero, extent_nil] at behind
          omega
        rw [only, List.take_zero, extent_nil] at place
        omega
    · next outside =>
      rw [inductionHypothesis later]
      constructor
      · rintro ⟨index, length, line, rfl, left, right, place⟩
        refine ⟨index + 1, length, line, by omega, left, right, ?_⟩
        rw [List.take_succ_cons, extent_cons]
        omega
      · rintro ⟨index, length, line, rfl, left, right, place⟩
        cases index with
        | zero =>
          obtain rfl : first = length := Option.some.inj line
          rw [List.take_zero, extent_nil] at place
          omega
        | succ index =>
          rw [List.take_succ_cons, extent_cons] at place
          exact ⟨index, length, line, by omega, left, right, by omega⟩

/-- An offset has no location exactly if it lies in front of the lines or behind them. -/
theorem locationFrom_eq_none_iff {lengths : List Int}
    (positive : ∀ length ∈ lengths, 0 < length) {start offset : Int} {row : Nat} :
    locationFrom start row offset lengths = none ↔
      offset < start ∨ start + extent lengths ≤ offset := by
  induction lengths generalizing start row with
  | nil =>
    rw [locationFrom, extent_nil]
    simp only [true_iff]
    omega
  | cons first rest inductionHypothesis =>
    obtain ⟨here, later⟩ := List.forall_mem_cons.mp positive
    have further := extent_nonneg later
    rw [locationFrom, extent_cons]
    split
    · next inside =>
      simp only [reduceCtorEq, false_iff]
      omega
    · next outside =>
      rw [inductionHypothesis later]
      omega

section Lines

variable {lengths : List Int} (positive : ∀ length ∈ lengths, 0 < length)
include positive

/-- The location of an offset is the location inside the lines that has this offset. -/
theorem location?_eq_some_iff {offset : Int} {location : Location} :
    location? lengths offset = some location ↔
      location.IsIn lengths ∧ location.offset lengths = offset := by
  obtain ⟨row, column⟩ := location
  rw [location?, locationFrom_eq_some_iff positive]
  constructor
  · rintro ⟨index, length, line, rfl, left, right, place⟩
    have above : 1 + index - 1 = index := by omega
    refine ⟨⟨Nat.le_add_right 1 index, left, length, above.symm ▸ line, right⟩, ?_⟩
    simp only [Location.offset, above]
    omega
  · rintro ⟨⟨top, left, length, line, right⟩, place⟩
    refine ⟨row - 1, length, line, (Nat.add_sub_cancel' top).symm, left, right, ?_⟩
    rw [← place, Location.offset, Int.zero_add]

/-- Only the offsets in the lines have a location. -/
theorem location?_eq_none_iff {offset : Int} :
    location? lengths offset = none ↔ offset < 0 ∨ extent lengths ≤ offset := by
  rw [location?, locationFrom_eq_none_iff positive, Int.zero_add]

/-- Of two locations, the one in the earlier row or further left in the same row has the smaller
    offset. -/
theorem Location.IsIn.order {first second : Location} (before : first.IsIn lengths)
    (after : second.IsIn lengths) (less : first.offset lengths < second.offset lengths) :
    first.row < second.row ∨ first.row = second.row ∧ first.column < second.column := by
  obtain ⟨length, line, right⟩ := after.last
  have left := before.first
  have top := before.row
  have otherTop := after.row
  rw [Location.offset, Location.offset] at less
  rcases Nat.lt_trichotomy first.row second.row with earlier | same | later
  · exact .inl earlier
  · refine .inr ⟨same, ?_⟩
    rw [same] at less
    omega
  · have behind := extent_take_add_le positive line
      (show second.row - 1 < first.row - 1 by omega)
    omega

end Lines

/-! ## The lines of a file -/

/-- Lines as they stand in a file, each with its newline. -/
def writtenLines (lines : List (List UInt8)) : List UInt8 := lines.flatMap (· ++ [newline])

@[simp]
theorem writtenLines_nil : writtenLines [] = [] := rfl

@[simp]
theorem writtenLines_cons (line : List UInt8) (rest : List (List UInt8)) :
    writtenLines (line :: rest) = line ++ newline :: writtenLines rest := by
  simp [writtenLines]

@[simp]
theorem writtenLines_append (front back : List (List UInt8)) :
    writtenLines (front ++ back) = writtenLines front ++ writtenLines back :=
  List.flatMap_append

/-- A file with the newline that its last line may lack. -/
def closed (content : List UInt8) : List UInt8 :=
  if content ≠ [] ∧ content.getLast? ≠ some newline then content ++ [newline] else content

/-- Lines with a newline between them and one behind the last. -/
theorem join_concat_newline {lines : List (List UInt8)} (some : lines ≠ []) :
    Text.join [newline] lines ++ [newline] = writtenLines lines := by
  induction lines with
  | nil => exact absurd rfl some
  | cons line rest inductionHypothesis =>
    cases rest with
    | nil => simp [Text.join]
    | cons second others =>
      have later := inductionHypothesis (List.cons_ne_nil second others)
      rw [Text.join_cons_cons, writtenLines_cons, ← later]
      simp

/-- Lines with a newline between them end as the last of them does, unless that one is empty. -/
theorem getLast?_join {front : List (List UInt8)} {last : List UInt8} (some : last ≠ []) :
    (Text.join [newline] (front ++ [last])).getLast? = last.getLast? := by
  by_cases none : front = []
  · rw [none, List.nil_append, Text.join]
  · rw [Text.join_append [newline] none (List.cons_ne_nil last []), Text.join,
      List.getLast?_append_of_ne_nil _ some]

/-- The lines of a file are the file, and the newline that its last line may lack. -/
theorem writtenLines_byteLines (content : List UInt8) :
    writtenLines (byteLines content) = closed content := by
  obtain ⟨front, last, parts⟩ := Text.exists_last_part newline content
  have whole := Text.join_split newline content
  have member : last ∈ Text.split newline content := parts ▸ List.mem_concat_self
  rw [byteLines, parts, List.getLast?_concat, List.dropLast_concat]
  rw [parts] at whole
  by_cases ended : last = []
  · subst ended
    rw [if_pos rfl]
    by_cases none : front = []
    · obtain rfl : content = [] := by simpa [none, Text.join] using whole.symm
      simp [none, closed]
    · rw [Text.join_append [newline] none (List.cons_ne_nil _ _), Text.join, List.append_nil,
        join_concat_newline none] at whole
      have newlineLast : content.getLast? = some newline := by
        rw [← whole, ← join_concat_newline none, List.getLast?_concat]
      rw [whole, closed, if_neg (by simp [newlineLast])]
  · have ending : content.getLast? = last.getLast? := whole ▸ getLast?_join ended
    have unended : content.getLast? ≠ some newline := by
      rw [ending]
      exact fun same => Text.not_mem_of_mem_split member (List.mem_of_getLast? same)
    have nonempty : content ≠ [] := by
      rintro rfl
      exact ended (List.getLast?_eq_none_iff.mp ending.symm)
    have lines : front ++ [last] ≠ [] := List.append_ne_nil_of_right_ne_nil _ (List.cons_ne_nil _ _)
    rw [if_neg (fun same => ended (Option.some.inj same)), closed, if_pos ⟨nonempty, unended⟩,
      ← join_concat_newline lines, whole]

/-- No line of a file holds a newline. -/
theorem not_mem_byteLines {content line : List UInt8} (member : line ∈ byteLines content) :
    newline ∉ line := by
  have part : line ∈ Text.split newline content := by
    rw [byteLines] at member
    split at member
    · exact List.dropLast_subset _ member
    · exact member
  exact Text.not_mem_of_mem_split part

/-- The lines together are as long as they are in the file. -/
theorem extent_map_length (lines : List (List UInt8)) :
    extent (lines.map fun line => (line.length : Int) + 1) =
      ((writtenLines lines).length : Int) := by
  induction lines with
  | nil => rfl
  | cons line rest inductionHypothesis =>
    rw [List.map_cons, extent_cons, inductionHypothesis, writtenLines_cons]
    simp only [List.length_append, List.length_cons]
    omega

/-- Every line has its newline. -/
theorem lineLengths_positive (content : List UInt8) :
    ∀ length ∈ lineLengths content, 0 < length := by
  intro length member
  obtain ⟨line, -, rfl⟩ := List.mem_map.mp member
  omega

/-- The offsets of a file: those of its bytes, and one for a newline that its last line lacks. -/
def places (content : List UInt8) : Nat :=
  content.length + if content ≠ [] ∧ content.getLast? ≠ some newline then 1 else 0

theorem length_closed (content : List UInt8) : (closed content).length = places content := by
  rw [closed, places]
  split <;> simp

theorem extent_lineLengths (content : List UInt8) :
    extent (lineLengths content) = (places content : Int) := by
  rw [lineLengths, extent_map_length, writtenLines_byteLines, length_closed]

/-- The line with a given offset starts here: behind the last newline in front of the offset, or
    with the file. -/
structure StartsLine (content : List UInt8) (offset start : Nat) : Prop where
  le : start ≤ offset
  behind : start = 0 ∨ content[start - 1]? = some newline
  single : ∀ index, start ≤ index → index < offset → content[index]? ≠ some newline

/-- What stands in front of a location: the lines above it, and the first bytes of its own. -/
theorem take_offset {content line : List UInt8} {above below : List (List UInt8)}
    (lines : byteLines content = above ++ line :: below) {column : Nat}
    (inside : column ≤ line.length) :
    content.take ((writtenLines above).length + column) =
      writtenLines above ++ line.take column := by
  have whole := writtenLines_byteLines content
  rw [lines, writtenLines_append, writtenLines_cons] at whole
  have total := congrArg List.length whole
  simp only [length_closed, places, List.length_append, List.length_cons] at total
  have fits : (writtenLines above).length + column ≤ content.length := by
    split at total <;> omega
  have same : content.take ((writtenLines above).length + column) =
      (closed content).take ((writtenLines above).length + column) := by
    rw [closed]
    split
    · rw [List.take_append_of_le_length fits]
    · rfl
  rw [same, ← whole, List.take_length_add_append, List.take_append_of_le_length inside]

/-- Lines hold as many newlines as there are lines. -/
theorem count_writtenLines {lines : List (List UInt8)} (plain : ∀ line ∈ lines, newline ∉ line) :
    (writtenLines lines).count newline = lines.length := by
  induction lines with
  | nil => rfl
  | cons line rest inductionHypothesis =>
    obtain ⟨here, later⟩ := List.forall_mem_cons.mp plain
    rw [writtenLines_cons, List.count_append, List.count_cons_self, inductionHypothesis later,
      List.count_eq_zero_of_not_mem here, List.length_cons]
    omega

/-- Lines end in a newline. -/
theorem getElem?_writtenLines_last {lines : List (List UInt8)} (some : lines ≠ []) :
    (writtenLines lines)[(writtenLines lines).length - 1]? = .some newline := by
  rw [← List.getLast?_eq_getElem?, ← join_concat_newline some, List.getLast?_concat]

/-- A location inside a file lies in one of its lines, and at most on the newline behind it. -/
theorem Location.IsIn.exists_line {content : List UInt8} {location : Location}
    (inside : location.IsIn (lineLengths content)) :
    ∃ above line below, ∃ column : Nat, byteLines content = above ++ line :: below ∧
      location = ⟨above.length + 1, column + 1⟩ ∧ column ≤ line.length := by
  obtain ⟨row, column⟩ := location
  obtain ⟨top, left, length, found, right⟩ := inside
  dsimp only at top left found right
  rw [lineLengths, List.getElem?_map, Option.map_eq_some_iff] at found
  obtain ⟨line, found, rfl⟩ := found
  obtain ⟨bound, rfl⟩ := List.getElem?_eq_some_iff.mp found
  refine ⟨(byteLines content).take (row - 1), (byteLines content)[row - 1],
    (byteLines content).drop (row - 1 + 1), (column - 1).toNat, ?lines, ?location, by omega⟩
  case lines => rw [List.getElem_cons_drop, List.take_append_drop]
  case location =>
    rw [List.length_take_of_le (Nat.le_of_lt bound), Location.mk.injEq]
    omega

/-- The offset of a location: the lines above with their newlines, and the bytes in front of it in
    its own line. -/
theorem offset_of_line {content line : List UInt8} {above below : List (List UInt8)}
    (lines : byteLines content = above ++ line :: below) (column : Nat) :
    Location.offset (lineLengths content) ⟨above.length + 1, column + 1⟩ =
      (writtenLines above).length + column := by
  rw [Location.offset, lineLengths, lines, List.map_append]
  dsimp only
  rw [Nat.add_sub_cancel, List.take_left' (List.length_map ..), extent_map_length]
  omega

/-- A location inside a file counts the newlines in front of its offset, and the bytes behind the
    last of them. -/
theorem Location.IsIn.counts {content : List UInt8} {location : Location}
    (inside : location.IsIn (lineLengths content)) :
    ∃ offset start : Nat, location.offset (lineLengths content) = (offset : Int) ∧
      location.row = (content.take offset).count newline + 1 ∧
      StartsLine content offset start ∧ location.column = (offset : Int) - start + 1 := by
  obtain ⟨above, line, below, column, lines, rfl, within⟩ := inside.exists_line
  have front := take_offset lines within
  have plain : ∀ other ∈ byteLines content, newline ∉ other := fun _ => not_mem_byteLines
  rw [lines, List.forall_mem_append, List.forall_mem_cons] at plain
  obtain ⟨plainAbove, plainLine, -⟩ := plain
  refine ⟨(writtenLines above).length + column, (writtenLines above).length, ?place, ?row, ?start,
    ?column⟩
  case place => rw [offset_of_line lines, Int.natCast_add]
  case row =>
    have none : newline ∉ line.take column := fun member =>
      plainLine (List.mem_of_mem_take member)
    rw [front, List.count_append, count_writtenLines plainAbove, List.count_eq_zero_of_not_mem none]
  case start =>
    -- In front of the offset, the bytes of the file are those of the lines.
    have bytes (position : Nat) (before : position < (writtenLines above).length + column) :
        content[position]? = (writtenLines above ++ line.take column)[position]? := by
      rw [← front, List.getElem?_take_of_lt before]
    refine ⟨Nat.le_add_right _ _, ?behind, ?single⟩
    case behind =>
      by_cases none : above = []
      · exact .inl (none ▸ rfl)
      · have some := getElem?_writtenLines_last none
        have bound : (writtenLines above).length - 1 < (writtenLines above).length :=
          (List.getElem?_eq_some_iff.mp some).1
        refine .inr ?_
        rw [bytes _ (by omega), List.getElem?_append_left bound, some]
    case single =>
      intro position from_ before same
      rw [bytes position before, List.getElem?_append_right from_] at same
      exact plainLine (List.mem_of_mem_take (List.mem_of_getElem? same))
  case column =>
    dsimp only
    omega

/-- The line with a given offset starts at one place only. -/
theorem StartsLine.unique {content : List UInt8} {offset start other : Nat}
    (one : StartsLine content offset start) (two : StartsLine content offset other) :
    start = other := by
  -- A start further back would have the newline in front of the other behind it.
  have behind {near far : Nat} (first : StartsLine content offset far)
      (second : StartsLine content offset near) : near ≤ far := by
    by_contra further
    rcases second.behind with rfl | newlined
    · omega
    · have within := second.le
      exact first.single (near - 1) (by omega) (by omega) newlined
  exact Nat.le_antisymm (behind two one) (behind one two)

/-- An offset lies in a row of a file: it is one of the file's offsets, and as many newlines stand
    in front of it as there are rows above. -/
structure LiesIn (content : List UInt8) (row : Nat) (offset : Int) : Prop where
  nonneg : 0 ≤ offset
  inside : offset < places content
  above : (content.take offset.toNat).count newline + 1 = row

/-- An offset has a location exactly if it is one of the file's. -/
theorem isSome_location?_iff {content : List UInt8} {offset : Int} :
    (location? (lineLengths content) offset).isSome = true ↔
      0 ≤ offset ∧ offset < places content := by
  rw [← Option.ne_none_iff_isSome, ne_eq, location?_eq_none_iff (lineLengths_positive content),
    extent_lineLengths]
  omega

/-- The location of an offset is in the row that the offset lies in, as far to the right as the
    offset is behind the start of its line. -/
theorem liesIn_of_location? {content : List UInt8} {offset : Int} {location : Location}
    (found : location? (lineLengths content) offset = some location) :
    LiesIn content location.row offset ∧ ∃ start : Nat,
      StartsLine content offset.toNat start ∧ location.column = offset - start + 1 := by
  obtain ⟨nonneg, within⟩ := isSome_location?_iff.mp (Option.isSome_of_eq_some found)
  obtain ⟨inside, rfl⟩ := (location?_eq_some_iff (lineLengths_positive content)).mp found
  obtain ⟨offset, start, place, row, starts, column⟩ := inside.counts
  rw [place] at nonneg within ⊢
  exact ⟨⟨nonneg, within, row.symm⟩, start, starts, column⟩

/-- An offset that lies in a row has its location there. -/
theorem LiesIn.exists_location {content : List UInt8} {row : Nat} {offset : Int}
    (lies : LiesIn content row offset) :
    ∃ location, location? (lineLengths content) offset = some location ∧ location.row = row := by
  obtain ⟨location, found⟩ := Option.isSome_iff_exists.mp
    (isSome_location?_iff.mpr ⟨lies.nonneg, lies.inside⟩)
  exact ⟨location, found, (liesIn_of_location? found).1.above.symm.trans lies.above⟩

/-- In a row, a larger offset is no further to the left. -/
theorem column_le_of_le {content : List UInt8} {lower upper : Int} {first second : Location}
    (before : location? (lineLengths content) lower = some first)
    (after : location? (lineLengths content) upper = some second) (row : first.row = second.row)
    (le : lower ≤ upper) : first.column ≤ second.column := by
  have positive := lineLengths_positive content
  obtain ⟨inside, rfl⟩ := (location?_eq_some_iff positive).mp before
  obtain ⟨behind, rfl⟩ := (location?_eq_some_iff positive).mp after
  rcases Int.lt_or_eq_of_le le with less | same
  · rcases inside.order positive behind less with earlier | ⟨-, further⟩
    · exact absurd row (Nat.ne_of_lt earlier)
    · exact Int.le_of_lt further
  · rw [Location.offset, Location.offset, row] at same
    omega

/-- The location of an offset is the number of newlines in front of it and its distance from the
    last of them. None has an offset in front of the file or behind the newline of its last line.
    The location lies inside the lines and gives the offset back; each location inside is that of
    exactly one offset; and a larger offset lies in a later row, or further right in the row. -/
theorem locations_of_offsets (content : List UInt8) :
    (∀ offset : Int, location? (lineLengths content) offset = none ↔
      offset < 0 ∨ (places content : Int) ≤ offset) ∧
    (∀ (offset : Int) (location : Location),
      location? (lineLengths content) offset = some location →
        ∃ start : Nat, location.row = (content.take offset.toNat).count newline + 1 ∧
          StartsLine content offset.toNat start ∧ location.column = offset - start + 1 ∧
          location.IsIn (lineLengths content) ∧ location.offset (lineLengths content) = offset) ∧
    (∀ location : Location, location.IsIn (lineLengths content) →
      ∃! offset : Int, location? (lineLengths content) offset = some location) ∧
    ∀ (lower upper : Int) (first second : Location),
      location? (lineLengths content) lower = some first →
      location? (lineLengths content) upper = some second → lower < upper →
      first.row < second.row ∨ first.row = second.row ∧ first.column < second.column := by
  have positive := lineLengths_positive content
  refine ⟨?none, ?some, ?inside, ?order⟩
  case none =>
    intro offset
    rw [location?_eq_none_iff positive, extent_lineLengths]
  case some =>
    intro offset location found
    obtain ⟨inside, rfl⟩ := (location?_eq_some_iff positive).mp found
    obtain ⟨offset, start, place, row, starts, column⟩ := inside.counts
    refine ⟨start, ?_, ?_, ?_, inside, rfl⟩
    all_goals rw [place]
    · exact row
    · exact starts
    · exact column
  case inside =>
    intro location inside
    refine ⟨location.offset _, (location?_eq_some_iff positive).mpr ⟨inside, rfl⟩, ?_⟩
    intro offset found
    exact ((location?_eq_some_iff positive).mp found).2.symm
  case order =>
    intro lower upper first second before after less
    obtain ⟨inside, rfl⟩ := (location?_eq_some_iff positive).mp before
    obtain ⟨behind, rfl⟩ := (location?_eq_some_iff positive).mp after
    exact inside.order positive behind less

/-- A file with an empty line whose last line has no newline: that newline has the last offset. -/
theorem locations_of_offsets_unended :
    let content : List UInt8 := [97, 10, 10, 98]
    location? (lineLengths content) 5 = none ∧
      location? (lineLengths content) 3 = some ⟨3, 1⟩ ∧
      location? (lineLengths content) 4 = some ⟨3, 2⟩ ∧
      (∃ start : Nat, 3 = (content.take 4).count newline + 1 ∧ StartsLine content 4 start ∧
        (2 : Int) = 4 - start + 1 ∧ Location.IsIn (lineLengths content) ⟨3, 2⟩ ∧
        Location.offset (lineLengths content) ⟨3, 2⟩ = 4) ∧
      (∃! offset : Int, location? (lineLengths content) offset = some ⟨3, 2⟩) ∧
      (3 < 3 ∨ 3 = 3 ∧ (1 : Int) < 2) := by
  intro content
  have earlier : location? (lineLengths content) 3 = some ⟨3, 1⟩ := by decide
  have last : location? (lineLengths content) 4 = some ⟨3, 2⟩ := by decide
  obtain ⟨none, some, inside, order⟩ := locations_of_offsets content
  obtain ⟨-, -, -, -, within, -⟩ := some 4 ⟨3, 2⟩ last
  exact ⟨(none 5).mpr (by decide), earlier, last, some 4 ⟨3, 2⟩ last, inside _ within,
    order 3 4 _ _ earlier last (by decide)⟩

end LintReview.Source
