import LintReview.Proofs.Checker.FormatterVerdict
import LintReview.Proofs.Source.Offsets

/-!
# The findings of the formatter

There is one finding in each row in which a change begins, by increasing row
(`Formatter.locate_findings`). It is at the place of the first change in the row, in the order of
the report, and says what is suggested for the row. The order of the changes matters for nothing
but this place, and changes that begin outside of the file do not matter.
-/

namespace LintReview.Formatter

open Source (LiesIn StartsLine places)

/-- The text that is suggested for a row, if the formatted text is known and has one. -/
def suggestedIn (content : List UInt8) (formatted : Option String) (row : Nat) : String :=
  match formatted with
  | none => ""
  | some text =>
    (Source.suggested? (Source.suggestions (String.ofList (Text.decodeReplacing content)) text)
      row).getD ""

/-- The finding in a row of a file: it is at the place of the first change that begins in the row,
    and says what is suggested for the row. -/
inductive FindsIn (file : String) (content : List UInt8) (changes : List Replacement)
    (formatted : Option String) (row : Nat) : Diagnostic → Prop where
  | first {earlier later : List Replacement} {change : Replacement} {start : Nat}
      (parts : changes = earlier ++ change :: later)
      (others : ∀ other ∈ earlier, ¬ LiesIn content row other.offset)
      (lies : LiesIn content row change.offset)
      (starts : StartsLine content change.offset.toNat start) :
      FindsIn file content changes formatted row
        { file := file
          row := row
          column := change.offset - start + 1
          severity := "warning"
          brief := brief
          tag := tag
          details := suggestedIn content formatted row }

section Findings

variable {file : String} {content : List UInt8} {changes : List Replacement}
  {formatted : Option String}

/-- The locations that findings are at. -/
def foundAt (content : List UInt8) (changes : List Replacement) : List Source.Location :=
  Source.touched (Source.lineLengths content) (changes.map Replacement.offset)

/-- A finding says where it is, and what is suggested there. -/
def findingAt (file : String) (content : List UInt8) (formatted : Option String)
    (location : Source.Location) : Diagnostic where
  file := file
  row := location.row
  column := location.column
  severity := "warning"
  brief := brief
  tag := tag
  details := suggestedIn content formatted location.row

theorem findings_eq (file : String) (content : List UInt8) (changes : List Replacement)
    (formatted : Option String) :
    findings file content changes formatted =
      (foundAt content changes).map (findingAt file content formatted) := by
  unfold findings foundAt
  refine List.map_congr_left fun location _ => ?_
  cases formatted <;> rfl

/-- The rows of findings increase. -/
theorem findings_increasing (file : String) (content : List UInt8) (changes : List Replacement)
    (formatted : Option String) :
    (findings file content changes formatted).Pairwise (·.row < ·.row) := by
  rw [findings_eq, List.pairwise_map]
  exact (Source.increasing_touched _ _).imp fun less => Int.ofNat_lt.mpr less

/-- Each finding is at the place of the first change in its row. -/
theorem findsIn_of_mem {diagnostic : Diagnostic}
    (found : diagnostic ∈ findings file content changes formatted) :
    ∃ row, FindsIn file content changes formatted row diagnostic := by
  rw [findings_eq] at found
  obtain ⟨location, touches, rfl⟩ := List.mem_map.mp found
  obtain ⟨front, offset, back, offsets, located, before⟩ := Source.exists_first_offset touches
  obtain ⟨earlier, rest, rfl, rfl, behind⟩ := List.map_eq_append_iff.mp offsets
  obtain ⟨change, later, rfl, rfl, rfl⟩ := List.map_eq_cons_iff.mp behind
  obtain ⟨lies, start, starts, column⟩ := Source.liesIn_of_location? located
  have others : ∀ other ∈ earlier, ¬ LiesIn content location.row other.offset := by
    intro other member same
    obtain ⟨place, found, row⟩ := same.exists_location
    exact before other.offset (List.mem_map_of_mem member) place found row
  have finds : FindsIn file content (earlier ++ change :: later) formatted location.row
      { findingAt file content formatted location with
        column := change.offset - start + 1 } := .first rfl others lies starts
  rw [← column] at finds
  exact ⟨location.row, finds⟩

/-- There is a finding in a row exactly if a change begins there. -/
theorem exists_finding_iff {row : Nat} :
    (∃ diagnostic ∈ findings file content changes formatted, diagnostic.row = row) ↔
      ∃ change ∈ changes, LiesIn content row change.offset := by
  have rows : (∃ diagnostic ∈ findings file content changes formatted, diagnostic.row = row) ↔
      ∃ location ∈ foundAt content changes, location.row = row := by
    simp only [findings_eq, List.mem_map, exists_exists_and_eq_and]
    exact exists_congr fun location => and_congr_right' Int.ofNat_inj
  rw [rows, foundAt, Source.exists_touched_iff]
  simp only [List.mem_map, exists_exists_and_eq_and]
  refine exists_congr fun change => and_congr_right' ⟨?_, LiesIn.exists_location⟩
  rintro ⟨location, located, rfl⟩
  exact (Source.liesIn_of_location? located).1

/-- If the changes come in the order of their offsets, the finding in a row is at the leftmost of
    them. -/
theorem column_le {diagnostic : Diagnostic} {row : Nat}
    (finds : FindsIn file content changes formatted row diagnostic)
    (ordered : changes.Pairwise (·.offset ≤ ·.offset)) {change : Replacement}
    (member : change ∈ changes) (lies : LiesIn content row change.offset) {start : Nat}
    (starts : StartsLine content change.offset.toNat start) :
    diagnostic.column ≤ change.offset - start + 1 := by
  obtain ⟨rfl, others, firstLies, firstStarts⟩ := finds
  rename_i earlier later first firstStart
  have le : first.offset ≤ change.offset := by
    rcases List.mem_append.mp member with before | rest
    · exact absurd lies (others change before)
    · rcases List.mem_cons.mp rest with rfl | behind
      · exact Int.le_refl _
      · exact (List.pairwise_cons.mp (List.pairwise_append.mp ordered).2.1).1 change behind
  obtain ⟨one, located, row⟩ := firstLies.exists_location
  obtain ⟨two, locatedToo, rowToo⟩ := lies.exists_location
  obtain ⟨-, oneStart, oneStarts, oneColumn⟩ := Source.liesIn_of_location? located
  obtain ⟨-, twoStart, twoStarts, twoColumn⟩ := Source.liesIn_of_location? locatedToo
  obtain rfl := firstStarts.unique oneStarts
  obtain rfl := starts.unique twoStarts
  have columns := Source.column_le_of_le located locatedToo (row.trans rowToo.symm) le
  rw [oneColumn, twoColumn] at columns
  exact columns

/-- The order of the changes does not matter for the rows, and for what is suggested. -/
theorem findings_perm (file : String) (content : List UInt8) (formatted : Option String)
    {others : List Replacement} (same : others.Perm changes) :
    (findings file content others formatted).map (fun found => (found.row, found.details)) =
      (findings file content changes formatted).map fun found => (found.row, found.details) := by
  have rows := Source.rows_touched_perm (Source.lineLengths content) (same.map Replacement.offset)
  have details (list : List Replacement) :
      (findings file content list formatted).map (fun found => (found.row, found.details)) =
        ((foundAt content list).map Source.Location.row).map fun row : Nat =>
          ((row : Int), suggestedIn content formatted row) := by
    rw [findings_eq, List.map_map, List.map_map]
    rfl
  rw [details, details, foundAt, foundAt, rows]

/-- Changes that begin outside of the file do not matter. -/
theorem findings_inside (file : String) (content : List UInt8) (changes : List Replacement)
    (formatted : Option String) :
    findings file content
        (changes.filter fun change => 0 ≤ change.offset ∧ change.offset < (places content : Int))
        formatted =
      findings file content changes formatted := by
  have offsets : (changes.filter fun change =>
        0 ≤ change.offset ∧ change.offset < (places content : Int)).map Replacement.offset =
      (changes.map Replacement.offset).filter fun offset =>
        0 ≤ offset ∧ offset < (places content : Int) := by
    rw [List.filter_map]
    rfl
  rw [findings_eq, findings_eq, foundAt, foundAt, offsets, Source.touched_filter]
  intro offset _ outside
  rw [← Option.not_isSome_iff_eq_none, Source.isSome_location?_iff]
  exact of_decide_eq_false outside

end Findings

variable {host : Host} {options : Table} {wantsText : Bool} {folder file : String}
  {world final : World} {content : List UInt8} {result : FileResult}

/-- The findings of a check are those that its changes and its text lead to. -/
theorem Checks.diagnostics_eq {first : CommandResult} {second : Option CommandResult}
    (checks : Checks host options wantsText folder file world first second result final)
    (stored : world.files.read (pathIn folder file) = .ok content) :
    result.diagnostics = findings file content result.replacements result.formatted := by
  -- A launch leaves the files as they are.
  have located {later : World} {changes : List Replacement} {formatted : Option String}
      {diagnostics : List Diagnostic}
      (ran : (locate folder file changes formatted).run.run later = (.ok diagnostics, later))
      (still : later.files = world.files) :
      diagnostics = findings file content changes formatted := by
    have known : (locate folder file changes formatted).run.run later =
        (.ok (findings file content changes formatted), later) :=
      locate_run (still ▸ stored) formatted
    exact Except.ok.inj (Prod.mk.inj (ran.symm.trans known)).1
  cases checks with
  | failed | refused => rfl
  | once _ _ _ _ ran | twice _ _ _ _ _ ran => exact located ran rfl

/-- The findings in a file that can be read, whatever the changes are. A check that comes to these
    changes has them. Their rows increase, and the rows that have one are those in which a change
    begins. Each is at the place of the first change in its row, which is the leftmost if the
    changes are in order, and says what is suggested for the row. In another order, the changes
    lead to the same rows and suggestions. Those that begin outside of the file lead to none. -/
theorem locate_findings (stored : world.files.read (pathIn folder file) = .ok content)
    (changes : List Replacement) (formatted : Option String) :
    ∃ diagnostics, (locate folder file changes formatted).run.run world =
        (.ok diagnostics, world) ∧
      (∀ (host : Host) (options : Table) (wantsText : Bool) (result : FileResult) (final : World),
        (check host options wantsText folder file).run.run world = (.ok result, final) →
        result.replacements = changes → result.formatted = formatted →
        result.diagnostics = diagnostics) ∧
      diagnostics.Pairwise (·.row < ·.row) ∧
      (∀ row : Nat, (∃ diagnostic ∈ diagnostics, diagnostic.row = row) ↔
        ∃ change ∈ changes, LiesIn content row change.offset) ∧
      (∀ diagnostic ∈ diagnostics, ∃ row, FindsIn file content changes formatted row diagnostic) ∧
      (changes.Pairwise (·.offset ≤ ·.offset) →
        ∀ diagnostic ∈ diagnostics, ∀ change ∈ changes, ∀ row start : Nat, diagnostic.row = row →
          LiesIn content row change.offset → StartsLine content change.offset.toNat start →
          diagnostic.column ≤ change.offset - start + 1) ∧
      (∀ others : List Replacement, others.Perm changes →
        ∃ found, (locate folder file others formatted).run.run world = (.ok found, world) ∧
          found.map (fun diagnostic => (diagnostic.row, diagnostic.details)) =
            diagnostics.map fun diagnostic => (diagnostic.row, diagnostic.details)) ∧
      (locate folder file
        (changes.filter fun change => 0 ≤ change.offset ∧ change.offset < (places content : Int))
        formatted).run.run world = (.ok diagnostics, world) := by
  refine ⟨findings file content changes formatted, locate_run stored formatted, ?checked,
    findings_increasing .., fun row => exists_finding_iff, fun diagnostic => findsIn_of_mem,
    ?leftmost, fun others same => ?reordered, ?inside⟩
  case checked =>
    rintro host options wantsText result final ran rfl rfl
    obtain ⟨first, second, checks⟩ := checks_of_run ran
    exact checks.diagnostics_eq stored
  case leftmost =>
    intro ordered diagnostic found change member row start same lies starts
    obtain ⟨known, finds⟩ := findsIn_of_mem found
    obtain rfl : known = row := by
      cases finds
      exact Int.ofNat.inj same
    exact column_le finds ordered member lies starts
  case reordered =>
    exact ⟨_, locate_run stored formatted, findings_perm file content formatted same⟩
  case inside =>
    rw [← findings_inside file content changes formatted]
    exact locate_run stored formatted

/-- A world with one file. -/
def worldOf (content : List UInt8) : World := ⟨⟨[(["a.cpp"], content)]⟩, [], 1, "", []⟩

/-- A file with a blank in its first row. Its last row has no newline. -/
def unendedFile : List UInt8 := Text.encode "a b\nc".toList

/-- Changes in no order: at the newline that the file lacks, behind it, in front of the file, and
    two in the first row. -/
def scatteredChanges : List Replacement :=
  [⟨5, 0, "\n"⟩, ⟨6, 0, ""⟩, ⟨-1, 1, ""⟩, ⟨2, 1, "b"⟩, ⟨1, 1, ""⟩]

/-- There is one finding in each row: in the first it is at the change that comes first, though not
    at the leftmost one. -/
theorem locate_findings_scattered :
    (worldOf unendedFile).files.read (pathIn "." "a.cpp") = .ok unendedFile ∧
    ∃ diagnostics,
      (locate "." "a.cpp" scatteredChanges (some "ab\nc\n")).run.run (worldOf unendedFile) =
        (.ok diagnostics, worldOf unendedFile) ∧
      diagnostics = [⟨"a.cpp", 1, 3, "warning", brief, tag, "ab"⟩,
        ⟨"a.cpp", 2, 2, "warning", brief, tag, ""⟩] ∧
      (∃ change ∈ scatteredChanges, LiesIn unendedFile 2 change.offset) ∧
      ¬ ∃ change ∈ scatteredChanges, LiesIn unendedFile 3 change.offset := by
  have stored : (worldOf unendedFile).files.read (pathIn "." "a.cpp") = .ok unendedFile := rfl
  obtain ⟨diagnostics, located, -, -, rows, -⟩ :=
    locate_findings stored scatteredChanges (some "ab\nc\n")
  have suggested : Source.suggestions (String.ofList (Text.decodeReplacing unendedFile)) "ab\nc\n" =
      [⟨1, "ab"⟩] := by
    rw [unendedFile, Text.decodeReplacing_encode, String.ofList_toList]
    cbv
  have touched : foundAt unendedFile scatteredChanges = [⟨1, 3⟩, ⟨2, 2⟩] := by decide
  have found : diagnostics = [⟨"a.cpp", 1, 3, "warning", brief, tag, "ab"⟩,
      ⟨"a.cpp", 2, 2, "warning", brief, tag, ""⟩] := by
    have known := Except.ok.inj (Prod.mk.inj (located.symm.trans (locate_run stored _))).1
    rw [known, findings_eq, touched]
    simp only [List.map_cons, List.map_nil, findingAt, suggestedIn, suggested]
    rfl
  refine ⟨stored, diagnostics, located, found, (rows 2).mp ?second, mt (rows 3).mpr ?third⟩
  all_goals rw [found]; decide

end LintReview.Formatter
