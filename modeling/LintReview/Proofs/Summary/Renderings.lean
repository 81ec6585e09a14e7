import LintReview.Summary
import Mathlib.Data.List.Basic

/-!
# The numbers in the summaries of a run

The step summary, the variables for later steps, the comment on the pull request and the exit
code are made from the reports of the checkers independently of one another, and with different
notions of passing. All of them can be told from the same few numbers: how many files failed in
each checker, and how many passed or were ignored. A checker that takes no part counts as one
without failed files.
-/

namespace LintReview.Summary

/-- The number of files that failed in the checker of a name: none if it takes no part. -/
def failedBy (title : String) (checkers : List Checker) : Nat :=
  ((checkers.find? fun checker => checker.title = title).map fun checker =>
    checker.report.failed.length).getD 0

/-- The number of files that failed in the analyzer. -/
def analyzed (checkers : List Checker) : Nat := failedBy Analyzer.usualProgram checkers

/-- The number of files that failed in the formatter. -/
def formatted (checkers : List Checker) : Nat := failedBy Formatter.usualProgram checkers

/-- The checkers that can take part in a run: the formatter, and the analyzer after it. -/
inductive Lineup : List Checker → Prop where
  | nobody : Lineup []
  | formatter (wantsText : Bool) (options : Table) (report : Report) :
      Lineup [⟨.formatter wantsText, options, report⟩]
  | analyzer (options : Table) (report : Report) : Lineup [⟨.analyzer, options, report⟩]
  | both (wantsText : Bool) (options others : Table) (report other : Report) :
      Lineup [⟨.formatter wantsText, options, report⟩, ⟨.analyzer, others, other⟩]

/-- The lines with the numbers of failed files. -/
def outputText (analyzed formatted : Nat) : String :=
  s!"total_failed={analyzed + formatted}\n" ++ s!"clang_tidy_failed_number={analyzed}\n" ++
    s!"clang_format_failed_number={formatted}\n"

/-- A row of the table in the comment on the pull request. -/
structure Row where
  title : String
  passed : Nat
  failed : Nat
  ignored : Nat

/-- The row as it is written. -/
def Row.text (row : Row) : String :=
  s!"| {row.title} | {row.passed} | {row.failed} | {row.ignored} |"

/-- The row on a checker. -/
def rowOf (checker : Checker) : Row where
  title := checker.title
  passed := checker.report.passed.length
  failed := checker.report.failed.length
  ignored := checker.report.ignored.length

/-- A comment with rows in its table and with blocks of details. -/
def commentText (rows : List Row) (blocks : List String) : String :=
  "\n".intercalate <|
    ["# lintlens results:\n", "| tool name | passed | failed | ignored |",
      "|-----------|--------|--------|---------|"] ++ rows.map Row.text ++ [""] ++ blocks

/-- The checkers in which some file failed. -/
def objecting (checkers : List Checker) : List Checker :=
  checkers.filter fun checker => !checker.report.failed.isEmpty

/-- The step summary of a run in which some number of files failed, with blocks of details. -/
def summaryText (failed : Nat) (blocks : List String) : String :=
  if failed = 0 then passBanner else title ++ failHint ++ String.join blocks

variable {checkers : List Checker}

/-- The checkers have different names. -/
theorem differ : Formatter.usualProgram ≠ Analyzer.usualProgram := by decide

/-- The number in a checker's report is the one under its name. -/
theorem Lineup.failed_eq (lineup : Lineup checkers) :
    ∀ checker ∈ checkers, checker.report.failed.length = failedBy checker.title checkers := by
  cases lineup with
  | nobody => simp
  | formatter wantsText options report => simp [failedBy]
  | analyzer options report => simp [failedBy]
  | both wantsText options others report other => simp [failedBy, Checker.title, differ]

/-- All files passed exactly if no number is above nought. -/
theorem Lineup.allPassed_iff (lineup : Lineup checkers) :
    allPassed checkers = true ↔ analyzed checkers + formatted checkers = 0 := by
  cases lineup with
  | nobody => exact iff_of_true rfl rfl
  | formatter wantsText options report =>
    simp [allPassed, Report.brief, analyzed, formatted, failedBy, Checker.title, differ]
  | analyzer options report =>
    simp [allPassed, Report.brief, analyzed, formatted, failedBy, Checker.title, differ.symm]
  | both wantsText options others report other =>
    simp [allPassed, Report.brief, analyzed, formatted, failedBy, Checker.title, differ, and_comm]

/-- The exit code is 1 exactly if some file failed in the analyzer. -/
theorem Lineup.exitCode_eq_one_iff (lineup : Lineup checkers) :
    exitCode checkers = 1 ↔ 0 < analyzed checkers := by
  have passed : runPassed checkers = true ↔ analyzed checkers = 0 := by
    cases lineup with
    | nobody => exact iff_of_true rfl rfl
    | formatter wantsText options report =>
      simp [runPassed, analyzed, failedBy, Checker.title, differ]
    | analyzer options report =>
      simp [runPassed, Report.brief, analyzed, failedBy, Checker.title]
    | both wantsText options others report other =>
      simp [runPassed, Report.brief, analyzed, failedBy, Checker.title, differ]
  rw [Nat.pos_iff_ne_zero, ne_eq, ← passed, exitCode]
  cases runPassed checkers <;> decide

/-- The variables hold the two numbers, whether or not both checkers take part. -/
theorem Lineup.failedCounts_eq (lineup : Lineup checkers) :
    failedCounts checkers =
      [("clang_tidy_failed_number", analyzed checkers),
        ("clang_format_failed_number", formatted checkers)] := by
  cases lineup with
  | nobody => rfl
  | formatter wantsText options report => rfl
  | analyzer options report => rfl
  | both wantsText options others report other => rfl

/-- Without anything between them, texts are joined. -/
theorem intercalate_empty (texts : List String) : "".intercalate texts = String.join texts := by
  induction texts with
  | nil => rfl
  | cons text rest inductionHypothesis =>
    rw [String.join_cons, ← inductionHypothesis]
    cases rest with
    | nil => simp
    | cons next others => simp

/-- The variables are the three lines with the numbers. -/
theorem Lineup.actionOutput_eq (lineup : Lineup checkers) :
    actionOutput checkers = outputText (analyzed checkers) (formatted checkers) := by
  rw [actionOutput, lineup.failedCounts_eq]
  simp only [intercalate_empty, List.map_cons, List.map_nil, String.join_cons, String.join_nil,
    String.append_empty, List.foldr_cons, List.foldr_nil, Nat.add_zero]
  exact String.append_assoc.symm

example : outputText 2 1 =
    "total_failed=3\nclang_tidy_failed_number=2\nclang_format_failed_number=1\n" := by decide

/-- The details in the step summary are those of the checkers that object, in their order. -/
theorem join_summary (checkers : List Checker) :
    String.join (checkers.map Checker.summary) =
      String.join ((objecting checkers).map Checker.details) := by
  induction checkers with
  | nil => rfl
  | cons checker rest inductionHypothesis =>
    rw [List.map_cons, String.join_cons, inductionHypothesis, objecting, objecting,
      Checker.summary]
    by_cases quiet : checker.report.failed.isEmpty = true
    · rw [if_pos quiet, String.empty_append, List.filter_cons_of_neg (by simp [quiet])]
    · rw [if_neg quiet, List.filter_cons_of_pos (by simpa using quiet), List.map_cons,
        String.join_cons]

/-- The step summary says that all files passed, or gives the details of the checkers that
    object. -/
theorem Lineup.stepSummary_eq (lineup : Lineup checkers) :
    stepSummary checkers = summaryText (analyzed checkers + formatted checkers)
      ((objecting checkers).map Checker.details) := by
  rw [stepSummary, summaryText, intercalate_empty, join_summary]
  simp only [lineup.allPassed_iff]

/-- The comment on the pull request has a row for each checker, in their order. -/
theorem issueComment_eq (checkers : List Checker) :
    issueComment checkers = commentText (checkers.map rowOf) (checkers.map Checker.details) := by
  rw [issueComment, commentText, List.map_map]
  rfl

end LintReview.Summary
