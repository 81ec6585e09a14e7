import LintReview.Proofs.Checker.Launches
import LintReview.Proofs.Diagnostic.Headers
import LintReview.Proofs.Statistics.Counts
import LintReview.Proofs.Text.Lines
import LintReview.Proofs.Text.Utf8

/-!
# Long numbers in what programs write

A launch that ends, or is refused because the program is missing or may not be run, has a
result. The formatter makes something of every result, whatever the program wrote
(`Formatter.check_returns`). The analyzer does so too, with one exception: a row, a column or a
count with more digits than are read makes it fail altogether (`Analyzer.resultOf_failsExactly`).
A scan ends at a file where that happens, and the files behind it are not looked at
(`Checker.stopped_only_by_long_numbers`).
-/

namespace LintReview

/-- The program ended, or it could not be launched because it is missing or may not be run. -/
def Outcome.IsUsual : Outcome → Prop
  | .finished _ _ _ | .failed .missing | .failed .notPermitted => True
  | .failed _ => False

namespace CommandResult

/-- A launch with a usual outcome has a result. -/
theorem exists_ofOutcome (request : Launch) {outcome : Outcome}
    (usual : outcome.IsUsual) : ∃ run, ofOutcome request outcome = .ok run := by
  cases outcome with
  | finished exitCode output errorOutput => exact ⟨_, rfl⟩
  | failed cause =>
    cases cause with
    | missing => exact ⟨_, rfl⟩
    | notPermitted => exact ⟨_, rfl⟩
    | notExecutable => exact usual.elim
    | timedOut => exact usual.elim

/-- A line in ASCII that a program writes with its newline is read as this line. -/
theorem lines_textOf {line : List Char}
    (plain : ∀ character ∈ line, character.toNat < 128 ∧ Text.isLineBreak character = false) :
    Text.lines (textOf (Text.numbersOf (line ++ ['\n']))).toList = [line] := by
  have ascii : ∀ character ∈ line ++ ['\n'], character.toNat < 128 := by
    intro character member
    rcases List.mem_append.mp member with inside | last
    · exact (plain character inside).1
    · obtain rfl := List.mem_singleton.mp last
      decide
  have unreturned : '\r' ∉ line ++ ['\n'] := by
    intro member
    rcases List.mem_append.mp member with inside | last
    · exact absurd (plain '\r' inside).2 (by decide)
    · exact absurd last (by decide)
  have read := (Text.decodeReplacing_numbersOf_iff fun character member =>
    Nat.lt_of_lt_of_le (ascii character member) (by decide)).mpr ascii
  rw [textOf, String.toList_ofList, read, Text.unifyNewlines_of_not_mem unreturned]
  exact Text.lines_line fun character member => (plain character member).2

end CommandResult

/-- Every launch has a usual outcome. -/
def Host.IsUsual (host : Host) : Prop := ∀ before request, (host.outcome before request).IsUsual

/-- A number in what a program wrote has more digits than are read. -/
def Failure.IsLongNumber (failure : Failure) : Prop :=
  ∃ cause : Text.NumeralError, cause.IsTooLong ∧ failure = .number cause

namespace Session

variable {α β : Type} {act : Session α} {next : α → Session β} {world : World}

/-- The session comes to its end. -/
def Returns (act : Session α) (world : World) : Prop :=
  ∃ result final, act.run.run world = (.ok result, final)

namespace Returns

theorem pure (result : α) : (Pure.pure result : Session α).Returns world := ⟨result, world, rfl⟩

/-- One part after the other. -/
theorem bind (first : act.Returns world)
    (second : ∀ result middle, act.run.run world = (.ok result, middle) →
      (next result).Returns middle) : (act >>= next).Returns world := by
  obtain ⟨result, middle, ended⟩ := first
  obtain ⟨last, final, endedToo⟩ := second result middle ended
  refine ⟨last, final, ?_⟩
  rw [run_bind_ok ended, endedToo]

end Returns

/-- A program with a usual outcome is run to its end. -/
theorem execute_returns {host : Host} (usual : host.IsUsual) (program : String)
    (arguments : List String) (folder : String) (world : World) :
    (execute host program arguments folder).Returns world := by
  obtain ⟨run, ended⟩ := CommandResult.exists_ofOutcome ⟨program, arguments, some folder⟩
    (usual world.effects ⟨program, arguments, some folder⟩)
  refine ⟨run, world.record (.launch ⟨program, arguments, some folder⟩), ?_⟩
  rw [execute_run, ended]
  rfl

end Session

/-! ## The formatter -/

/-- Taking idle components out of a path brings no null character into it. -/
theorem not_mem_plainPath {path : String} (plain : '\x00' ∉ path.toList) :
    '\x00' ∉ (plainPath path).toList := by
  have kept : '\x00' ∉ ("/".intercalate ((pathComponents path).filter (!isIdle ·))).toList := by
    rw [String.toList_intercalate, ← Text.join_eq_intercalate]
    intro member
    rcases Text.mem_join member with between | ⟨part, inside, found⟩
    · exact absurd between (by decide)
    · obtain ⟨component, chosen, rfl⟩ := List.mem_map.mp inside
      obtain ⟨own, listed, rfl⟩ := List.mem_map.mp (List.mem_of_mem_filter chosen)
      rw [String.toList_ofList] at found
      apply plain
      rw [← Text.join_split '/' path.toList]
      exact Text.mem_join_of_mem listed found
  unfold plainPath
  dsimp only
  split
  · rw [String.toList_append, List.mem_append, not_or]
    exact ⟨by decide, kept⟩
  · split
    · decide
    · exact kept

/-- A path in a folder has no null character if neither of the two has one. -/
theorem not_mem_pathIn {folder file : String} (folderPlain : '\x00' ∉ folder.toList)
    (filePlain : '\x00' ∉ file.toList) : '\x00' ∉ (pathIn folder file).toList := by
  unfold pathIn
  split
  · exact not_mem_plainPath filePlain
  · apply not_mem_plainPath
    simp [not_mem_plainPath folderPlain, filePlain]

/-- Reading a path without null characters does not end a run. -/
theorem FileTree.read_ne_nullCharacter (tree : FileTree) {path : String}
    (plain : '\x00' ∉ path.toList) : tree.read path ≠ .error .nullCharacter := by
  have absent : path.toList.contains '\x00' = false := by simpa using plain
  unfold read
  rw [absent, if_neg Bool.false_ne_true]
  split <;> simp

namespace Formatter

variable {host : Host} {options : Table} {folder file : String}

/-- The touched rows are found, or there are none. -/
theorem locate_returns (folderPlain : '\x00' ∉ folder.toList) (filePlain : '\x00' ∉ file.toList)
    (replacements : List Replacement) (formatted : Option String) (world : World) :
    (locate folder file replacements formatted).Returns world := by
  have reads : (Session.read (pathIn folder file)).run.run world =
      (.ok (world.files.read (pathIn folder file)), world) := rfl
  unfold locate
  split
  · exact .pure []
  · apply Session.Returns.bind ⟨_, _, reads⟩
    intro found middle ran
    obtain rfl : world.files.read (pathIn folder file) = found :=
      Except.ok.inj (Prod.mk.inj (reads.symm.trans ran)).1
    split
    · exact .pure _
    · next refused =>
      exact absurd refused
        (FileTree.read_ne_nullCharacter _ (not_mem_pathIn folderPlain filePlain))
    · exact .pure []

/-- The formatter makes a result of whatever its program writes. -/
theorem check_returns (usual : host.IsUsual) {program : String}
    (named : Options.program options usualProgram = .ok program) (wantsText : Bool)
    (folderPlain : '\x00' ∉ folder.toList) (filePlain : '\x00' ∉ file.toList) (world : World) :
    (check host options wantsText folder file).Returns world := by
  rw [check, named]
  apply Session.Returns.bind ⟨program, world, Session.lift_run _⟩
  intro name start _
  apply (Session.execute_returns usual name _ folder start).bind
  intro first middle _
  split
  · exact .pure _
  · split
    · exact .pure _
    · cases wantsText with
      | false =>
        apply (Session.Returns.pure none).bind
        intro second last _
        exact (locate_returns folderPlain filePlain _ _ last).bind fun _ _ _ => .pure _
      | true =>
        have again : (some <$> Session.execute host name [file] folder).Returns middle := by
          rw [map_eq_pure_bind]
          exact (Session.execute_returns usual name _ folder middle).bind fun _ _ _ => .pure _
        apply again.bind
        intro second last _
        exact (locate_returns folderPlain filePlain _ _ last).bind fun _ _ _ => .pure _

end Formatter

/-! ## The analyzer -/

namespace Analyzer

/-- A run of the analyzer wrote a long number where a number is read: in a line in the form of
    a header, or in a count. -/
inductive WritesLongNumber (run : CommandResult) : Prop where
  | inHeader {header : Diagnostic.HeaderLine}
      (written : header.text ∈ Text.lines run.output.toList) (long : header.IsLong)
  | inCount {line : List Char}
      (written : line ∈ Text.lines run.errorOutput.toList) (long : Statistics.HasLongCount line)

/-- What the analyzer wrote gives a result unless it has a long number. -/
theorem resultOf_failsExactly (file : String) (run : CommandResult) :
    FailsExactly Text.NumeralError.IsTooLong (WritesLongNumber run) (resultOf file run) := by
  refine FailsExactly.congr ((Diagnostic.ofOutput_failsExactly run.output).bind fun diagnostics _ =>
    (Statistics.ofErrorOutput_failsExactly run.errorOutput).bind_total fun statistics _ =>
      ⟨_, rfl⟩) ⟨?_, ?_⟩
  · rintro (⟨header, written, long⟩ | ⟨line, written, long⟩)
    · exact .inHeader written long
    · exact .inCount written long
  · rintro (⟨written, long⟩ | ⟨written, long⟩)
    · exact .inl ⟨_, written, long⟩
    · exact .inr ⟨_, written, long⟩

end Analyzer

/-! ## Checks and scans -/

namespace Checker

/-- The checker is the analyzer, and what it writes on a file that it is launched for after the
    given effects has a long number. -/
def MeetsLongNumber (host : Host) (checker : Checker) (folder file : String)
    (before : List Effect) : Prop :=
  checker.kind = .analyzer ∧ ∃ run,
    CommandResult.ofOutcome (Analyzer.request checker.options folder file)
      (host.outcome before (Analyzer.request checker.options folder file)) = .ok run ∧
    Analyzer.WritesLongNumber run

/-- Checking a file fails altogether exactly if the analyzer writes a long number. -/
theorem check_failsExactly {host : Host} (usual : host.IsUsual) {checker : Checker}
    {program : String} (named : Options.program checker.options checker.title = .ok program)
    {folder file : String} (folderPlain : '\x00' ∉ folder.toList)
    (filePlain : '\x00' ∉ file.toList) (world : World) :
    FailsExactly Failure.IsLongNumber (checker.MeetsLongNumber host folder file world.effects)
      ((checker.check host folder file).run.run world).1 := by
  obtain ⟨kind, options, report⟩ := checker
  cases kind with
  | formatter wantsText =>
    obtain ⟨result, final, ran⟩ := Formatter.check_returns usual named wantsText folderPlain
      filePlain world
    rw [check, ran]
    refine (FailsExactly.pure result).congr ⟨False.elim, ?_⟩
    rintro ⟨impossible, -⟩
    cases impossible
  | analyzer =>
    obtain ⟨run, ended⟩ := CommandResult.exists_ofOutcome (Analyzer.request options folder file)
      (usual world.effects (Analyzer.request options folder file))
    rw [check, Analyzer.check_run named, ended]
    refine FailsExactly.congr ((Analyzer.resultOf_failsExactly file run).mapError
      fun cause long => ⟨cause, long, rfl⟩) ⟨fun long => ⟨rfl, run, ended, long⟩, ?_⟩
    rintro ⟨-, other, same, long⟩
    obtain rfl := Except.ok.inj (ended.symm.trans same)
    exact long

/-- Nothing that programs write makes a check or a scan fail altogether, but for numbers with
    more digits than are read. With usual outcomes of launches, a readable name of the program,
    and paths that a program can be launched with, checking a file gives a result unless the
    checker is the analyzer and meets a long number, and is then a failure. A scan comes to its
    end unless the pattern of files cannot be read or the analyzer meets a long number on one of
    the files: the files before that one are scanned as if they were all, and those behind it
    are not looked at. -/
theorem stopped_only_by_long_numbers {host : Host} (usual : host.IsUsual) {checker : Checker}
    {program : String} (named : Options.program checker.options checker.title = .ok program)
    {folder : String} {files : List String}
    (plain : ∀ path ∈ folder :: files, '\x00' ∉ path.toList) (world : World) :
    (∀ file ∈ files,
      FailsExactly Failure.IsLongNumber (checker.MeetsLongNumber host folder file world.effects)
        ((checker.check host folder file).run.run world).1) ∧
    ∀ examined cause final,
      (checker.scan host folder files).run world = ((examined, .error cause), final) →
        (∃ file ∈ files, Options.selects checker.options file = .error cause) ∨
        ∃ before file later middle, files = before ++ file :: later ∧
          (checker.scan host folder before).run world = ((examined, .ok ()), middle) ∧
          cause.IsLongNumber ∧ checker.MeetsLongNumber host folder file middle.effects := by
  obtain ⟨folderPlain, filesPlain⟩ := List.forall_mem_cons.mp plain
  refine ⟨fun file member =>
    check_failsExactly usual named folderPlain (filesPlain file member) world, ?_⟩
  intro examined cause final ran
  rcases scanned : (LintReview.scan (Options.selects checker.options) (checker.check host folder)
    (Options.stopsEarly checker.options) files checker.report).run world with
    ⟨⟨report, ending⟩, last⟩
  obtain ⟨same, rfl⟩ := Prod.mk.inj ((scan_run scanned).symm.trans ran)
  obtain ⟨rfl, rfl⟩ := Prod.mk.inj same
  obtain ⟨before, file, later, applied, middle, rfl, scans, -, failure⟩ := scan_interrupted scanned
  have inside : file ∈ before ++ file :: later := by simp
  rcases failure with ⟨unreadable, -⟩ | ⟨-, raised⟩
  · exact .inl ⟨file, inside, unreadable⟩
  · have failing := check_failsExactly usual named folderPlain (filesPlain file inside) middle
    rw [raised] at failing
    obtain ⟨met, long⟩ := failing.of_error
    exact .inr ⟨before, file, later, middle, rfl, scan_run scans.run, long, met⟩

/-- A world in which nothing was done. -/
def untouched : World := ⟨⟨[]⟩, [], 1, "", []⟩

/-- A host on which every program ends with an exit code and writes bytes. -/
def hostWriting (exitCode : Int) (output errorOutput : List UInt8) : Host where
  outcome _ _ := .finished exitCode output errorOutput
  openError _ _ := none
  difference _ _ _ := .ok ""
  refusal _ _ := none
  login := "bot"

/-- An analyzer without options. -/
def bareAnalyzer : Checker := .new .analyzer []

/-- A host on which every program fails and writes two bytes that are no text. -/
def garbledHost : Host := hostWriting 1 [0xff, 0xfe] []

/-- The analyzer has a result for a file where it writes no text. -/
theorem stopped_only_by_long_numbers_garbled :
    garbledHost.IsUsual ∧
    Options.program bareAnalyzer.options bareAnalyzer.title = .ok "clang-tidy" ∧
    (∀ path ∈ [".", "a.cpp"], '\x00' ∉ path.toList) ∧
    ∃ result, ((bareAnalyzer.check garbledHost "." "a.cpp").run.run untouched).1 = .ok result := by
  have usual : garbledHost.IsUsual := fun _ _ => trivial
  have named : Options.program bareAnalyzer.options bareAnalyzer.title = .ok "clang-tidy" := rfl
  have plain : ∀ path ∈ [".", "a.cpp"], '\x00' ∉ path.toList := by decide
  have uncut : ∀ line ∈ Text.lines (CommandResult.textOf [0xff, 0xfe]).toList, ':' ∉ line := by
    decide
  have short : ¬ bareAnalyzer.MeetsLongNumber garbledHost "." "a.cpp" untouched.effects := by
    rintro ⟨-, run, ended, long⟩
    obtain rfl := Except.ok.inj ended
    cases long with
    | @inHeader header written _ => exact uncut _ written header.colon_mem
    | inCount written _ => cases written
  have whole := stopped_only_by_long_numbers usual named plain untouched
  exact ⟨usual, named, plain, (whole.1 "a.cpp" (by simp)).succeeds short⟩

/-- A digit that is repeated makes a field of digits. -/
theorem isNumberField_replicate (count : Nat) :
    Diagnostic.isNumberField (List.replicate (count + 1) '1') = true := by
  simp [Diagnostic.isNumberField, Text.isAsciiDigit, List.replicate_succ]

/-- A line in the form of a header, with a row of one digit more than is read. -/
def longRow : Diagnostic.HeaderLine where
  file := "a.cpp".toList
  row := List.replicate (Text.maxDigits + 1) '1'
  column := ['1']
  blanks := [' ']
  severity := "warning".toList
  brief := " bad ".toList
  tag := ['x']
  file_plain := by decide
  row_digits := isNumberField_replicate Text.maxDigits
  column_digits := by decide
  blanks_blank := List.forall_mem_singleton.mpr rfl
  severity_known := by decide
  brief_plain := by decide
  brief_unbracketed := by decide
  tag_plain := by decide
  message_filled := by decide

/-- The line is in ASCII and has no line breaks. -/
theorem longRow_plain : ∀ character ∈ longRow.text,
    character.toNat < 128 ∧ Text.isLineBreak character = false := by
  have others : [[':'], longRow.file, longRow.column, longRow.blanks ++ longRow.severity,
      longRow.brief ++ longRow.bracketed].all (fun part => part.all fun character =>
        character.toNat < 128 && !Text.isLineBreak character) = true := rfl
  simp only [List.all_eq_true, Bool.and_eq_true, decide_eq_true_eq, Bool.not_eq_true'] at others
  intro character member
  rcases Text.mem_join member with colon | ⟨part, inside, found⟩
  · exact others [':'] (by simp) character colon
  · by_cases digits : part = longRow.row
    · rw [digits] at found
      obtain rfl : character = '1' := List.eq_of_mem_replicate found
      decide
    · have other : part ∈ [[':'], longRow.file, longRow.column,
          longRow.blanks ++ longRow.severity, longRow.brief ++ longRow.bracketed] := by
        simp only [List.mem_cons, digits, false_or] at inside ⊢
        exact .inr inside
      exact others part other character found

/-- A host on which every program writes this line. -/
def longRowHost : Host := hostWriting 1 (Text.numbersOf (longRow.text ++ ['\n'])) []

/-- An analyzer that writes this line leads to no result for the file. -/
theorem no_result_for_longRow :
    ¬ ∃ result, ((bareAnalyzer.check longRowHost "." "a.cpp").run.run untouched).1 =
      .ok result := by
  have usual : longRowHost.IsUsual := fun _ _ => trivial
  have long : longRow.IsLong := by
    refine .inl ?_
    rw [longRow, List.length_replicate]
    exact Nat.lt_succ_self Text.maxDigits
  have written : longRow.text ∈ Text.lines
      (CommandResult.textOf (Text.numbersOf (longRow.text ++ ['\n']))).toList := by
    rw [CommandResult.lines_textOf longRow_plain]
    exact List.mem_cons_self
  have met : bareAnalyzer.MeetsLongNumber longRowHost "." "a.cpp" untouched.effects :=
    ⟨rfl, _, rfl, .inHeader written long⟩
  have named : Options.program bareAnalyzer.options bareAnalyzer.title = .ok "clang-tidy" := rfl
  obtain ⟨cause, -, failed⟩ :=
    (check_failsExactly usual named (by decide) (by decide) untouched).fails met
  rintro ⟨result, ended⟩
  rw [failed] at ended
  cases ended

end Checker

end LintReview
