import LintReview.Proofs.Statistics.LastAssignment
import LintReview.Proofs.Text.Numerals

/-!
# Summary lines read back

A linter reports its counts in two lines: one on warnings and errors, of which it leaves out what
there is none of, and one on suppressed warnings. Each line is covered by one rule or two, and no
other rule stands in it, since a form that begins with a number needs one at the start of the line
and the other forms need the capital letter that begins the second line. So the counts are read
back (`summary_lines_read`), but for one form of the first line that no rule covers: a single
warning together with errors.
-/

namespace LintReview.Statistics

/-! ## Written lines -/

/-- A count with its noun, which has an `s` behind it unless the count is one. -/
def countOf (count : Nat) (noun : List Char) : List Char :=
  Nat.toDigits 10 count ++ ' ' :: (noun ++ if count = 1 then [] else ['s'])

/-- The line on warnings and errors, of which there are some. -/
def summaryLine (warnings errors : Nat) : List Char :=
  (if warnings = 0 then [] else countOf warnings "warning".toList) ++
    ((if warnings = 0 ∨ errors = 0 then [] else " and ".toList) ++
      ((if errors = 0 then [] else countOf errors "error".toList) ++ " generated.".toList))

/-- The line on suppressed warnings. The last count may be missing. -/
def suppressedLine (suppressed nonUser : Nat) (noLint : Option Nat) : List Char :=
  "Suppressed ".toList ++ (Nat.toDigits 10 suppressed ++ (" warnings (".toList ++
    (Nat.toDigits 10 nonUser ++ (" in non-user code".toList ++
      match noLint with
      | none => ").".toList
      | some count => ", ".toList ++ (Nat.toDigits 10 count ++ " NOLINT).".toList)))))

/-! ## Matching written text -/

/-- A written number in front of something that is no digit is matched as a whole. -/
theorem matchParts?_number (value : Nat) (parts : List Part) {next : Char} (rest : List Char)
    (ends : Text.isDigit next = false) :
    matchParts? (.number :: parts) (Nat.toDigits 10 value ++ next :: rest) =
      (matchParts? parts (next :: rest)).map (Nat.toDigits 10 value :: ·) :=
  matchParts?_digits Nat.toDigits_ne_nil (fun _ => Text.isDigit_of_mem_toDigits) parts rest ends

/-- A form that begins with text is not found where the first character of the text is missing. -/
theorem searchParts?_of_not_mem {first : Char} (content : List Char) (parts : List Part)
    {line : List Char} (absent : first ∉ line) :
    searchParts? (.text (first :: content) :: parts) line = none := by
  induction line with
  | nil => rfl
  | cons character rest inductionHypothesis =>
    have other : first ≠ character := List.ne_of_not_mem_cons absent
    have here : matchParts? (.text (first :: content) :: parts) (character :: rest) = none := by
      rw [matchParts?, Text.after?, if_neg other, Option.bind_none]
    rw [searchParts?, here, inductionHypothesis (List.not_mem_of_not_mem_cons absent)]
    rfl

/-- Where its first character stands at the start only, a form that begins with text is found
    there or nowhere. -/
theorem searchParts?_cons_of_not_mem {first : Char} (content : List Char) (parts : List Part)
    {rest : List Char} (absent : first ∉ rest) :
    searchParts? (.text (first :: content) :: parts) (first :: rest) =
      matchParts? (.text (first :: content) :: parts) (first :: rest) := by
  rw [searchParts?, searchParts?_of_not_mem content parts absent, Option.orElse_eq_orElse,
    Option.orElse_eq_or, Option.or_none]

/-- Only a digit stands in a written number. -/
theorem not_mem_toDigits {character : Char} (other : character.isDigit = false) (value : Nat) :
    character ∉ Nat.toDigits 10 value := by
  intro member
  rw [Nat.isDigit_of_mem_toDigits (by decide) (by decide) member] at other
  cases other

/-! ## The line on warnings and errors -/

/-- For a line that begins with a count, the rules that begin with a number assign the count and
    what else they match, and no other rule stands in the line. -/
theorem assignments_count (value : Nat) {rest : List Char} (absent : 'S' ∉ rest) :
    assignments (Nat.toDigits 10 value ++ ' ' :: rest) =
      rules.flatMap fun rule =>
        match rule.parts with
        | .number :: parts => rule.counters.zip
            (((matchParts? parts (' ' :: rest)).map (Nat.toDigits 10 value :: ·)).getD [])
        | _ => [] := by
  have counted (parts : List Part) := matchParts?_number value parts rest
    (by decide : Text.isDigit ' ' = false)
  have missing : 'S' ∉ Nat.toDigits 10 value ++ ' ' :: rest := by
    simp [not_mem_toDigits (by decide : Char.isDigit 'S' = false), absent]
  have unsuppressed (parts : List Part) :
      searchParts? (.text "Suppressed ".toList :: parts) (Nat.toDigits 10 value ++ ' ' :: rest) =
        none := searchParts?_of_not_mem _ parts missing
  simp only [assignments, rules, List.flatMap_cons, List.flatMap_nil, Rule.find?, if_true,
    Bool.false_eq_true, if_false, counted, unsuppressed]
  rfl

/-- What the line on warnings and errors is read as: nothing if there is a single warning with
    errors, and else each of the two counts that the line has. -/
def summaryCounts (warnings errors : Nat) : List (Counter × Nat) :=
  if warnings = 1 ∧ 0 < errors then []
  else
    (if warnings = 0 then [] else [(.warnings, warnings)]) ++
      if errors = 0 then [] else [(.errors, errors)]

/-- Counts with their digits. -/
def written (counts : List (Counter × Nat)) : List (Counter × List Char) :=
  counts.map fun count => (count.1, Nat.toDigits 10 count.2)

/-- A line on warnings alone assigns their count. -/
theorem assignments_warnings (warnings : Nat) :
    assignments (countOf warnings "warning".toList ++ " generated.".toList) =
      written [(.warnings, warnings)] := by
  rw [countOf, List.append_assoc, List.cons_append, List.append_assoc]
  by_cases single : warnings = 1
  · rw [if_pos single, assignments_count warnings (by decide)]
    rfl
  · rw [if_neg single, assignments_count warnings (by decide)]
    rfl

/-- A line on errors alone assigns their count. -/
theorem assignments_errors (errors : Nat) :
    assignments (countOf errors "error".toList ++ " generated.".toList) =
      written [(.errors, errors)] := by
  rw [countOf, List.append_assoc, List.cons_append, List.append_assoc]
  by_cases single : errors = 1
  · rw [if_pos single, assignments_count errors (by decide)]
    rfl
  · rw [if_neg single, assignments_count errors (by decide)]
    rfl

/-- Errors behind another count are matched as such. -/
theorem matchParts?_errors (errors : Nat) :
    matchParts? [.number, .text " error".toList, .maybe ['s'], .text " generated.".toList]
      (countOf errors "error".toList ++ " generated.".toList) = some [Nat.toDigits 10 errors] := by
  rw [countOf, List.append_assoc, List.cons_append, matchParts?_number errors _ _ (by decide)]
  by_cases single : errors = 1
  · rw [if_pos single]
    rfl
  · rw [if_neg single]
    rfl

/-- A line on warnings and errors assigns both counts if there are several warnings, and none if
    there is one. -/
theorem assignments_both (warnings errors : Nat) :
    assignments (countOf warnings "warning".toList ++ (" and ".toList ++
        (countOf errors "error".toList ++ " generated.".toList))) =
      written (if warnings = 1 then [] else [(.warnings, warnings), (.errors, errors)]) := by
  have absent : 'S' ∉ countOf errors "error".toList ++ " generated.".toList := by
    have digits := not_mem_toDigits (by decide : Char.isDigit 'S' = false) errors
    have plural : 'S' ∉ if errors = 1 then [] else ['s'] := by split <;> decide
    simp [countOf, digits, plural]
  have tail := matchParts?_errors errors
  generalize countOf errors "error".toList ++ " generated.".toList = behind at absent tail ⊢
  rw [countOf, List.append_assoc, List.cons_append, List.append_assoc]
  by_cases single : warnings = 1
  · rw [if_pos single, if_pos single, assignments_count warnings (by simp [absent])]
    rfl
  · have both : matchParts? [.text " warnings and ".toList, .number, .text " error".toList,
          .maybe ['s'], .text " generated.".toList]
        (' ' :: ("warning".toList ++ (['s'] ++ (" and ".toList ++ behind)))) =
          some [Nat.toDigits 10 errors] := (matchParts?_text " warnings and ".toList _ _).trans tail
    rw [if_neg single, if_neg single, assignments_count warnings (by simp [absent])]
    simp only [rules, List.flatMap_cons, List.flatMap_nil, both]
    rfl

/-- The line on warnings and errors assigns its counts, unless there is a single warning with
    errors. -/
theorem assignments_summaryLine {warnings errors : Nat} (some : 0 < warnings + errors) :
    assignments (summaryLine warnings errors) = written (summaryCounts warnings errors) := by
  rw [summaryLine, summaryCounts]
  by_cases noWarning : warnings = 0
  · have single : ¬ (warnings = 1 ∧ 0 < errors) := by omega
    have error : errors ≠ 0 := by omega
    simp only [noWarning, error, if_true, if_false, true_or, List.nil_append]
    simpa using assignments_errors errors
  · by_cases noError : errors = 0
    · have single : ¬ (warnings = 1 ∧ 0 < errors) := by omega
      simp only [noWarning, noError, if_true, if_false, or_true, List.nil_append]
      simpa using assignments_warnings warnings
    · have neither : ¬ (warnings = 0 ∨ errors = 0) := by omega
      have error : 0 < errors := by omega
      rw [if_neg noWarning, if_neg neither, if_neg noError, assignments_both]
      simp [noWarning, noError, error]

/-! ## The line on suppressed warnings -/

/-- What the line on suppressed warnings is read as. -/
def suppressedCounts (suppressed nonUser : Nat) (noLint : Option Nat) : List (Counter × Nat) :=
  (.suppressedWarnings, suppressed) :: (.nonUserCodeWarnings, nonUser) ::
    noLint.toList.map fun count => (.noLintWarnings, count)

/-- The first two counts of the line on suppressed warnings are matched, and then what the form has
    behind them. -/
theorem matchParts?_suppressed (suppressed nonUser : Nat) (parts : List Part) (rest : List Char) :
    matchParts? (.text "Suppressed ".toList :: .number :: .text " warnings (".toList :: .number ::
        parts)
      ("Suppressed ".toList ++ (Nat.toDigits 10 suppressed ++ (" warnings (".toList ++
        (Nat.toDigits 10 nonUser ++ ' ' :: rest)))) =
      (matchParts? parts (' ' :: rest)).map fun numbers =>
        Nat.toDigits 10 suppressed :: Nat.toDigits 10 nonUser :: numbers := by
  have blank : Text.isDigit ' ' = false := by decide
  have behind : " warnings (".toList ++ (Nat.toDigits 10 nonUser ++ ' ' :: rest) =
      ' ' :: ("warnings (".toList ++ (Nat.toDigits 10 nonUser ++ ' ' :: rest)) := rfl
  rw [matchParts?_text, behind, matchParts?_number suppressed _ _ blank, ← behind,
    matchParts?_text, matchParts?_number nonUser _ _ blank, Option.map_map]
  rfl

/-- The numbers that a form has in a line on suppressed warnings, from what it has behind the first
    two. -/
def suppressedNumbers (suppressed nonUser : Nat) (later : Option (List (List Char))) :
    List (List Char) :=
  (later.map fun numbers =>
    Nat.toDigits 10 suppressed :: Nat.toDigits 10 nonUser :: numbers).getD []

/-- For a line that begins with the first two counts of suppressed warnings, the two rules for
    such lines assign what they match, and no other rule stands in the line. -/
theorem assignments_suppressed (suppressed nonUser : Nat) {rest : List Char} (absent : 'S' ∉ rest) :
    assignments ("Suppressed ".toList ++ (Nat.toDigits 10 suppressed ++ (" warnings (".toList ++
        (Nat.toDigits 10 nonUser ++ ' ' :: rest)))) =
      [.suppressedWarnings, .nonUserCodeWarnings].zip (suppressedNumbers suppressed nonUser
          (matchParts? [.text " in non-user code).".toList] (' ' :: rest))) ++
        [.suppressedWarnings, .nonUserCodeWarnings, .noLintWarnings].zip
          (suppressedNumbers suppressed nonUser (matchParts? [.text " in non-user code, ".toList,
            .number, .text " NOLINT).".toList] (' ' :: rest))) := by
  have behind : 'S' ∉ "uppressed ".toList ++ (Nat.toDigits 10 suppressed ++ (" warnings (".toList ++
      (Nat.toDigits 10 nonUser ++ ' ' :: rest))) := by
    have digits := not_mem_toDigits (by decide : Char.isDigit 'S' = false)
    simp [digits, absent]
  have searched (parts : List Part) :
      searchParts? (.text "Suppressed ".toList :: .number :: .text " warnings (".toList ::
          .number :: parts)
        ("Suppressed ".toList ++ (Nat.toDigits 10 suppressed ++ (" warnings (".toList ++
          (Nat.toDigits 10 nonUser ++ ' ' :: rest)))) =
        (matchParts? parts (' ' :: rest)).map fun numbers =>
          Nat.toDigits 10 suppressed :: Nat.toDigits 10 nonUser :: numbers :=
    (searchParts?_cons_of_not_mem _ _ behind).trans
      (matchParts?_suppressed suppressed nonUser parts rest)
  have anchored (parts : List Part) : matchParts? (.number :: parts)
      ("Suppressed ".toList ++ (Nat.toDigits 10 suppressed ++ (" warnings (".toList ++
        (Nat.toDigits 10 nonUser ++ ' ' :: rest)))) = none := rfl
  simp only [assignments, rules, List.flatMap_cons, List.flatMap_nil, Rule.find?, if_true,
    Bool.false_eq_true, if_false, anchored, searched, suppressedNumbers, Option.getD_none,
    List.zip_nil_right, List.nil_append, List.append_nil]

/-- The line on suppressed warnings assigns its counts. -/
theorem assignments_suppressedLine (suppressed nonUser : Nat) (noLint : Option Nat) :
    assignments (suppressedLine suppressed nonUser noLint) =
      written (suppressedCounts suppressed nonUser noLint) := by
  cases noLint with
  | none =>
    have line : suppressedLine suppressed nonUser none = "Suppressed ".toList ++
        (Nat.toDigits 10 suppressed ++ (" warnings (".toList ++ (Nat.toDigits 10 nonUser ++
          ' ' :: "in non-user code).".toList))) := rfl
    rw [line, assignments_suppressed suppressed nonUser (by decide)]
    rfl
  | some count =>
    have line : suppressedLine suppressed nonUser (some count) = "Suppressed ".toList ++
        (Nat.toDigits 10 suppressed ++ (" warnings (".toList ++ (Nat.toDigits 10 nonUser ++
          ' ' :: ("in non-user code, ".toList ++ (Nat.toDigits 10 count ++
            " NOLINT).".toList))))) := rfl
    have digits := not_mem_toDigits (by decide : Char.isDigit 'S' = false) count
    have matched : matchParts? [.text " in non-user code, ".toList, .number,
          .text " NOLINT).".toList] (' ' :: ("in non-user code, ".toList ++
            (Nat.toDigits 10 count ++ " NOLINT).".toList))) = some [Nat.toDigits 10 count] :=
      (matchParts?_text " in non-user code, ".toList _ _).trans
        (matchParts?_number count _ _ (by decide))
    rw [line, assignments_suppressed suppressed nonUser (by simp [digits]), matched]
    rfl

/-! ## Error output with both lines -/

/-- The error output has the two lines on the counts, in either order, among lines in which no rule
    has anything. -/
def Reports (output : String) (warnings errors suppressed nonUser : Nat) (noLint : Option Nat) :
    Prop :=
  ∃ one other before between after,
    Text.lines output.toList = before ++ one :: (between ++ other :: after) ∧
    (one = summaryLine warnings errors ∧ other = suppressedLine suppressed nonUser noLint ∨
      one = suppressedLine suppressed nonUser noLint ∧ other = summaryLine warnings errors) ∧
    ∀ line ∈ before ++ (between ++ after), ∀ rule ∈ rules, ∀ numbers, ¬ rule.Captures line numbers

/-- Lines in which no rule has anything assign nothing. -/
theorem assignments_uncaptured {lines : List (List Char)}
    (uncaptured : ∀ line ∈ lines, ∀ rule ∈ rules, ∀ numbers, ¬ rule.Captures line numbers) :
    lines.flatMap assignments = [] := by
  rw [List.flatMap_eq_nil_iff]
  intro line member
  rw [assignments, List.flatMap_eq_nil_iff]
  intro rule known
  cases found : rule.find? line with
  | none => simp
  | some numbers =>
    exact absurd ((find?_iff known).mp found) (uncaptured line member rule known numbers)

/-- The counts of both lines, in the order of the lines. -/
theorem Reports.assignments {output : String} {warnings errors suppressed nonUser : Nat}
    {noLint : Option Nat} (reports : Reports output warnings errors suppressed nonUser noLint)
    (some : 0 < warnings + errors) :
    ∃ counts,
      (counts = summaryCounts warnings errors ++ suppressedCounts suppressed nonUser noLint ∨
        counts = suppressedCounts suppressed nonUser noLint ++ summaryCounts warnings errors) ∧
      ofErrorOutput output = assign {} (written counts) := by
  obtain ⟨one, other, before, between, after, lines_eq, order, uncaptured⟩ := reports
  have quiet (lines : List (List Char)) (part : lines ⊆ before ++ (between ++ after)) :
      lines.flatMap Statistics.assignments = [] :=
    assignments_uncaptured fun line member => uncaptured line (part member)
  have nothing := quiet before (by simp)
  have nothingBetween := quiet between (by simp)
  have nothingAfter := quiet after (by simp)
  have summary := assignments_summaryLine some
  have suppression := assignments_suppressedLine suppressed nonUser noLint
  have both : ofErrorOutput output =
      assign {} (Statistics.assignments one ++ Statistics.assignments other) := by
    rw [ofErrorOutput, lines_eq, List.flatMap_append, List.flatMap_cons, List.flatMap_append,
      List.flatMap_cons, nothing, nothingBetween, nothingAfter, List.nil_append, List.nil_append,
      List.append_nil]
  rcases order with ⟨rfl, rfl⟩ | ⟨rfl, rfl⟩
  · refine ⟨_, .inl rfl, ?_⟩
    rw [both, summary, suppression, written, written, written, List.map_append]
  · refine ⟨_, .inr rfl, ?_⟩
    rw [both, summary, suppression, written, written, written, List.map_append]

/-- The statistics with counts set, one after the other. -/
def setAll (statistics : Statistics) (counts : List (Counter × Nat)) : Statistics :=
  counts.foldl (fun known count => known.set count.2 count.1) statistics

/-- Written counts that are not too long are assigned as they are. -/
theorem assign_written {counts : List (Counter × Nat)}
    (short : ∀ count ∈ counts, (Nat.toDigits 10 count.2).length ≤ Text.maxDigits)
    (statistics : Statistics) :
    assign statistics (written counts) = .ok (setAll statistics counts) := by
  induction counts generalizing statistics with
  | nil => rfl
  | cons count rest inductionHypothesis =>
    obtain ⟨first, later⟩ := List.forall_mem_cons.mp short
    have tail : assign statistics (written (count :: rest)) =
        assign (statistics.set count.2 count.1) (written rest) := by
      rw [written, List.map_cons, assign, Text.readDigits_toDigits first]
      rfl
    rw [tail, inductionHypothesis later]
    rfl

/-- A written count that is too long cannot be read. -/
theorem assign_written_tooLong {counts : List (Counter × Nat)}
    (long : ∃ count ∈ counts, Text.maxDigits < (Nat.toDigits 10 count.2).length)
    (statistics : Statistics) :
    ∃ digits, Text.maxDigits < digits ∧
      assign statistics (written counts) = .error (.tooLong digits) := by
  obtain ⟨count, member, exceeds⟩ := long
  have entry : (count.1, Nat.toDigits 10 count.2) ∈ written counts :=
    List.mem_map.mpr ⟨count, member, rfl⟩
  obtain ⟨cause, ⟨digits, many, rfl⟩, failed⟩ :=
    (assign_failsExactly statistics (written counts)).fails ⟨_, entry, exceeds⟩
  exact ⟨digits, many, failed⟩

/-- The statistics that both lines are read as. -/
def reported (warnings errors suppressed nonUser : Nat) (noLint : Option Nat) : Statistics where
  warnings := if warnings = 1 ∧ 0 < errors then 0 else warnings
  errors := if warnings = 1 ∧ 0 < errors then 0 else errors
  suppressedWarnings := suppressed
  nonUserCodeWarnings := nonUser
  noLintWarnings := noLint.getD 0

/-- The order of the two lines does not matter, as they are for different counters. -/
theorem setAll_counts {counts : List (Counter × Nat)} {warnings errors suppressed nonUser : Nat}
    {noLint : Option Nat}
    (order : counts =
        summaryCounts warnings errors ++ suppressedCounts suppressed nonUser noLint ∨
      counts = suppressedCounts suppressed nonUser noLint ++ summaryCounts warnings errors) :
    setAll {} counts = reported warnings errors suppressed nonUser noLint := by
  rw [summaryCounts] at order
  rw [reported]
  by_cases missed : warnings = 1 ∧ 0 < errors
  · rw [if_pos missed] at order ⊢
    rw [if_pos missed]
    rcases order with rfl | rfl
    all_goals cases noLint <;> rfl
  · rw [if_neg missed] at order ⊢
    rw [if_neg missed]
    by_cases noWarning : warnings = 0
    all_goals by_cases noError : errors = 0
    all_goals
      simp only [noWarning, noError, if_true, if_false] at order ⊢
      rcases order with rfl | rfl
      all_goals cases noLint <;> rfl

/-- The two lines on the counts are read back from error output, for all counts, in either order
    and among any other lines, with one exception: where a single warning stands with errors, no
    rule knows the line, and both count as none. A count that is too long cannot be read. -/
theorem summary_lines_read {output : String} {warnings errors suppressed nonUser : Nat}
    {noLint : Option Nat} (some : 0 < warnings + errors)
    (reports : Reports output warnings errors suppressed nonUser noLint) :
    ((∀ count ∈ summaryCounts warnings errors ++ suppressedCounts suppressed nonUser noLint,
        (Nat.toDigits 10 count.2).length ≤ Text.maxDigits) →
      ofErrorOutput output = .ok (reported warnings errors suppressed nonUser noLint)) ∧
    ((∃ count ∈ summaryCounts warnings errors ++ suppressedCounts suppressed nonUser noLint,
        Text.maxDigits < (Nat.toDigits 10 count.2).length) →
      ∃ digits, Text.maxDigits < digits ∧ ofErrorOutput output = .error (.tooLong digits)) := by
  obtain ⟨counts, order, read⟩ := reports.assignments some
  have same {count : Counter × Nat} : count ∈ counts ↔
      count ∈ summaryCounts warnings errors ++ suppressedCounts suppressed nonUser noLint := by
    rcases order with rfl | rfl
    · exact Iff.rfl
    · exact List.mem_append.trans (or_comm.trans List.mem_append.symm)
  rw [read]
  constructor
  · intro short
    rw [assign_written fun count member => short count (same.mp member), setAll_counts order]
  · rintro ⟨count, member, long⟩
    exact assign_written_tooLong ⟨count, same.mpr member, long⟩ {}

/-- Error output with a line of another kind between the two. -/
def reportedOutput : String :=
  "Suppressed 9 warnings (7 in non-user code, 2 NOLINT).\nDone.\n" ++
    "12 warnings and 1 error generated.\n"

/-- All five counts of the output are read back. -/
theorem summary_lines_read_reported :
    Reports reportedOutput 12 1 9 7 (some 2) ∧
    ofErrorOutput reportedOutput = .ok ⟨12, 1, 0, 9, 7, 2⟩ := by
  have reports : Reports reportedOutput 12 1 9 7 (some 2) := by
    refine ⟨_, _, [], ["Done.".toList], [], ?_, .inr ⟨rfl, rfl⟩, ?_⟩
    · decide +kernel
    · have nothing : ∀ rule ∈ rules, rule.find? "Done.".toList = none := by decide +kernel
      intro line member rule known numbers captures
      obtain rfl := List.mem_singleton.mp member
      have found := (find?_iff known).mpr captures
      rw [nothing rule known] at found
      cases found
  have short : ∀ count ∈ summaryCounts 12 1 ++ suppressedCounts 9 7 (some 2),
      (Nat.toDigits 10 count.2).length ≤ Text.maxDigits := by decide +kernel
  exact ⟨reports, (summary_lines_read (by decide) reports).1 short⟩

/-- A single warning and two errors are not counted. -/
theorem single_warning_missed :
    summaryLine 1 2 = "1 warning and 2 errors generated.".toList ∧
    suppressedLine 9 7 (some 2) =
      "Suppressed 9 warnings (7 in non-user code, 2 NOLINT).".toList ∧
    ofErrorOutput ("1 warning and 2 errors generated.\n" ++
        "Suppressed 9 warnings (7 in non-user code, 2 NOLINT).\n") = .ok ⟨0, 0, 0, 9, 7, 2⟩ :=
  ⟨by decide, by decide, rfl⟩

end LintReview.Statistics
