import LintReview.Proofs.Run.Course
import LintReview.Proofs.Summary.Renderings

/-!
# The figures of a run

A run on the server can show what it found in four places: its step summary, its comment on the
pull request, the variables for later steps and its exit code. In a run that comes to its end
they agree (`start_agreed`). They are made from the same reports, and each report accounts for
the files of the change: all of them, unless the checker stopped early.
-/

namespace LintReview

/-! ## What is posted -/

/-- The texts that effects put at the ends of files, with the paths of the files. -/
def appendsOf (effects : List Effect) : List (String × String) :=
  effects.filterMap fun
    | .append path text => some (path, text)
    | _ => none

/-- The texts of the comments that effects make or edit. -/
def bodiesOf (effects : List Effect) : List String :=
  effects.filterMap fun
    | .github (.createComment body) => some body
    | .github (.editComment _ body) => some body
    | _ => none

theorem appendsOf_append (first second : List Effect) :
    appendsOf (first ++ second) = appendsOf first ++ appendsOf second :=
  List.filterMap_append

theorem bodiesOf_append (first second : List Effect) :
    bodiesOf (first ++ second) = bodiesOf first ++ bodiesOf second :=
  List.filterMap_append

/-- Effects that post nothing put no text into files and make no comments. -/
theorem nothing_posted {effects : List Effect}
    (quiet : ∀ effect ∈ effects, effect.posts = false) :
    appendsOf effects = [] ∧ bodiesOf effects = [] := by
  induction effects with
  | nil => exact ⟨rfl, rfl⟩
  | cons effect rest inductionHypothesis =>
    obtain ⟨silent, others⟩ := List.forall_mem_cons.mp quiet
    obtain ⟨noTexts, noBodies⟩ := inductionHypothesis others
    cases effect with
    | launch => exact ⟨noTexts, noBodies⟩
    | openRepository => exact ⟨noTexts, noBodies⟩
    | difference => exact ⟨noTexts, noBodies⟩
    | github => cases silent
    | append => cases silent

namespace Run

section Postings

variable {context : Context}

/-- A review puts no text into files and makes no comments. -/
theorem reviewEffects_apart (batches : List (List Github.InlineComment)) :
    appendsOf (reviewEffects batches) = [] ∧ bodiesOf (reviewEffects batches) = [] := by
  induction batches with
  | nil => exact ⟨rfl, rfl⟩
  | cons batch rest inductionHypothesis => exact inductionHypothesis

/-- Asking for the pull request puts no text into files and makes no comments. -/
theorem openingEffects_apart (pullAtHand : Bool) :
    appendsOf (openingEffects context pullAtHand) = [] ∧
      bodiesOf (openingEffects context pullAtHand) = [] := by
  unfold openingEffects
  split
  · exact ⟨rfl, rfl⟩
  · exact ⟨rfl, rfl⟩

/-- The texts that the postings put into files are the step summary and the variables. -/
theorem appendsOf_postings (onServer : context.isLocal = false)
    (summarized : context.stepSummary = true) (named : context.outputPath ≠ "") (config : Table)
    (pullAtHand : Bool) (known : List Github.Comment) (checkers : List Checker)
    (batches : List (List Github.InlineComment)) :
    appendsOf (postings context config pullAtHand known checkers batches) =
      [(context.stepSummaryPath, Summary.stepSummary checkers),
        (context.outputPath, Summary.actionOutput checkers)] := by
  have summary : appendsOf (summaryEffects context checkers) =
      [(context.stepSummaryPath, Summary.stepSummary checkers)] := by
    rw [summaryEffects, if_pos summarized]
    rfl
  have comment : appendsOf (commentEffects context config known checkers) = [] := by
    unfold commentEffects BotComment.upkeep
    split
    · split <;> rfl
    · rfl
  have output : appendsOf (outputEffects context checkers) =
      [(context.outputPath, Summary.actionOutput checkers)] := by
    rw [outputEffects, if_pos (by simp [onServer, named])]
    rfl
  simp only [postings, appendsOf_append, summary, (openingEffects_apart pullAtHand).1, comment,
    (reviewEffects_apart batches).1, output, List.nil_append, List.singleton_append]

/-- The postings make or edit a single comment. -/
theorem bodiesOf_postings (commented : context.comment = true) (config : Table)
    (pullAtHand : Bool) (known : List Github.Comment) (checkers : List Checker)
    (batches : List (List Github.InlineComment)) :
    bodiesOf (postings context config pullAtHand known checkers batches) =
      [Summary.issueComment checkers] := by
  have summary : bodiesOf (summaryEffects context checkers) = [] := by
    unfold summaryEffects
    split <;> rfl
  have comment : bodiesOf (commentEffects context config known checkers) =
      [Summary.issueComment checkers] := by
    rw [commentEffects, if_pos commented]
    unfold BotComment.upkeep
    split <;> rfl
  have output : bodiesOf (outputEffects context checkers) = [] := by
    unfold outputEffects
    split <;> rfl
  simp only [postings, bodiesOf_append, summary, (openingEffects_apart pullAtHand).2, comment,
    (reviewEffects_apart batches).2, output, List.nil_append, List.append_nil]

end Postings

/-! ## Who takes part -/

/-- The checker of a section takes part. -/
def takesPart (config : Table) (name : String) : Bool :=
  match sectionOf config name with
  | .ok options => isEnabled options
  | .error _ => false

/-- The names of the checkers that take part, in the order in which they examine files. -/
def enabledTitles (config : Table) : List String :=
  (if takesPart config Config.formatterSection then [Formatter.usualProgram] else []) ++
    if takesPart config Config.analyzerSection then [Analyzer.usualProgram] else []

/-- The checkers of a run are those whose sections have them take part. -/
theorem titles_of_checkersOf {config : Table} {review : Bool} {checkers : List Checker}
    (given : checkersOf config review = .ok checkers) :
    checkers.map Checker.title = enabledTitles config := by
  obtain ⟨formatting, analyzing, formatter, analyzer, rfl⟩ := checkersOf_eq_ok given
  simp only [enabledTitles, takesPart, formatter, analyzer]
  cases isEnabled formatting <;> cases isEnabled analyzing <;> rfl

/-- Checkers whose names come in the order of a run are a lineup. -/
theorem lineup_of_titles {checkers : List Checker}
    (in_order : (checkers.map Checker.title).Sublist
      [Formatter.usualProgram, Analyzer.usualProgram]) : Summary.Lineup checkers := by
  have formatterFirst {checker : Checker} (named : checker.title = Formatter.usualProgram) :
      ∃ wantsText options report, checker = ⟨.formatter wantsText, options, report⟩ := by
    obtain ⟨kind, options, report⟩ := checker
    cases kind with
    | formatter wantsText => exact ⟨wantsText, options, report, rfl⟩
    | analyzer => exact absurd named.symm Summary.differ
  have analyzerNext {checker : Checker} (named : checker.title = Analyzer.usualProgram) :
      ∃ options report, checker = ⟨.analyzer, options, report⟩ := by
    obtain ⟨kind, options, report⟩ := checker
    cases kind with
    | formatter wantsText => exact absurd named Summary.differ
    | analyzer => exact ⟨options, report, rfl⟩
  match checkers with
  | [] => exact .nobody
  | [⟨.formatter wantsText, options, report⟩] => exact .formatter wantsText options report
  | [⟨.analyzer, options, report⟩] => exact .analyzer options report
  | [first, second] =>
    have both := in_order.eq_of_length rfl
    simp only [List.map_cons, List.map_nil, List.cons.injEq, and_true] at both
    obtain ⟨wantsText, options, report, rfl⟩ := formatterFirst both.1
    obtain ⟨others, other, rfl⟩ := analyzerNext both.2
    exact .both wantsText options others report other
  | _ :: _ :: _ :: _ =>
    have short := in_order.length_le
    simp at short

/-! ## The agreement -/

/-- The report of a checker accounts for files: it has no more of them than there are, and has
    all of them unless the checker stopped early. -/
def Accounts (files : List String) (checker : Checker) : Prop :=
  let row := Summary.rowOf checker
  row.passed + row.failed + row.ignored ≤ files.length ∧
    (checker.report.stoppedEarly = false →
      row.passed + row.failed + row.ignored = files.length)

/-- A checker that has scanned distinct files accounts for them. -/
theorem accounts_of_scanned {host : Host} {checker : Checker} {folder : String}
    {files : List String} {before after : World} (distinct : files.Nodup)
    (scanned : checker.Scanned host folder files before after) : Accounts files checker := by
  obtain ⟨examined, applied, scans⟩ := scans_of_run scanned
  have partition := scans.partition distinct
  have total : (Summary.rowOf checker).passed + (Summary.rowOf checker).failed +
      (Summary.rowOf checker).ignored = examined.length := partition.total_eq
  constructor
  · rw [total]
    exact scans.examined_prefix.length_le
  · intro ranOn
    rw [total, partition.examined_all ranOn]

/-- The places in which a run shows what it found agree on the numbers. -/
structure Agreed (context : Context) (config : Table) (run : Run) (done : List Effect) :
    Prop where
  /-- The checkers of the run are those of the configuration, in their order. -/
  titles_eq : run.checkers.map Checker.title = enabledTitles config
  /-- A checker that takes no part counts as one without failed files. -/
  absent_eq : ∀ title ∉ enabledTitles config, Summary.failedBy title run.checkers = 0
  /-- The files that the run writes get the step summary and the variables. -/
  appends_eq : appendsOf done =
    [(context.stepSummaryPath,
        Summary.summaryText
          (Summary.analyzed run.checkers + Summary.formatted run.checkers)
          ((Summary.objecting run.checkers).map Checker.details)),
      (context.outputPath,
        Summary.outputText (Summary.analyzed run.checkers) (Summary.formatted run.checkers))]
  /-- The comment has a row for each checker. -/
  bodies_eq : bodiesOf done =
    [Summary.commentText (run.checkers.map Summary.rowOf) (run.checkers.map Checker.details)]
  rows_eq : ∀ checker ∈ run.checkers,
    (Summary.rowOf checker).failed = Summary.failedBy checker.title run.checkers
  accounts : ∀ checker ∈ run.checkers, Accounts run.files checker
  exitCode_iff : run.exitCode = 1 ↔ 0 < Summary.analyzed run.checkers

end Run

end LintReview
