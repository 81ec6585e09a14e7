import LintReview.Proofs.Checker.FormatterRun
import LintReview.Proofs.Replacement.RoundTrip
import LintReview.Proofs.Review.MissingPatches
import LintReview.Proofs.Source.Components
import LintReview.Proofs.Text.Lines
import LintReview.Proofs.Text.Utf8

/-!
# Suggestions in comments

The formatter may change a row into a text of its own. The comment on such a row ends in this
text as a suggestion, unless the text is empty: then there is no suggestion in the comment, as if
none was known for the row (`oneLineChange_commented`). On a file with a backslash in its name
there are no comments.
-/

namespace LintReview

namespace Formatter

/-- What a comment of the formatter says on every row. -/
def plainBody : String := "code should be clang-formatted [clang-format]"

/-- A text as a suggestion in a comment. -/
def offer (text : String) : String :=
  "\n\x60\x60\x60suggestion\n" ++ text ++ "\n\x60\x60\x60"

/-- A comment on a finding ends in its details as a suggestion, unless there are none. -/
theorem commentBody_finding (options : Table) (report : Report) (wantsText : Bool) (file : String)
    (known : List Source.Suggestion) (location : Source.Location) :
    (Checker.mk (.formatter wantsText) options report).commentBody
        (finding file known location) =
      plainBody ++
        (if (Source.suggested? known location.row).getD "" = "" then ""
        else offer ((Source.suggested? known location.row).getD "")) := by
  have plain : String.ofList (Text.trim brief.toList) ++ " " ++ tag = plainBody := by decide
  have details : (finding file known location).details =
      (Source.suggested? known location.row).getD "" := rfl
  change commentBody (String.ofList (Text.trim brief.toList) ++ " " ++ tag) _ = _
  rw [plain, commentBody, details]
  by_cases empty : (Source.suggested? known location.row).getD "" = ""
  · rw [if_pos empty, if_pos empty, String.append_empty]
  · rw [if_neg empty, if_neg empty]
    exact (congrArg (· ++ _) (String.append_assoc ..)).trans (String.append_assoc ..)

/-- In a row that is touched there is one finding, at the place that is kept of the row. -/
theorem exists_finding (file : String) {content : List UInt8} {replacements : List Replacement}
    {replacement : Replacement} {location : Source.Location} (text : String)
    (listed : replacement ∈ replacements)
    (located : Source.location? (Source.lineLengths content) replacement.offset = some location) :
    let known := Source.suggestions (String.ofList (Text.decodeReplacing content)) text
    ∃ place : Source.Location, place.row = location.row ∧
      ∀ diagnostic, diagnostic ∈ findings file content replacements (some text) ∧
        diagnostic.row = location.row ↔ diagnostic = finding file known place := by
  intro known
  have touched : ∃ place ∈ Source.touched (Source.lineLengths content)
      (replacements.map Replacement.offset), place.row = location.row :=
    Source.exists_touched_iff.mpr
      ⟨replacement.offset, List.mem_map_of_mem listed, location, located, rfl⟩
  obtain ⟨place, member, same⟩ := touched
  refine ⟨place, same, fun diagnostic => ⟨?_, ?_⟩⟩
  · rintro ⟨found, row⟩
    obtain ⟨other, touches, rfl⟩ := List.mem_map.mp found
    have rows : other.row = place.row := by
      rw [same]
      exact Int.ofNat.inj row
    rw [(Source.increasing_touched _ _).eq_of_row touches member rows]
  · rintro rfl
    exact ⟨List.mem_map_of_mem member, congrArg Int.ofNat same⟩

end Formatter

namespace Review

/-- A file is meant by its own name unless there is a backslash in it. -/
theorem meansFile_self_iff (file : List Char) :
    Source.meansFile file file = true ↔ '\\' ∉ file := by
  refine ⟨Source.forward_of_meansFile, fun forward => ?_⟩
  rw [Source.meansFile, Source.forwardSlashes_eq forward, beq_self_eq_true, Bool.true_or]

/-- The comments of a checker that the change covers, file by file. -/
theorem commentsOf_eq {checker : Checker} {change : Diff.Change}
    (covered : checker.Covered change) :
    commentsOf change checker =
      .ok (checker.report.failed.flatMap (commentsOnFile checker change)) :=
  commentsOnFiles_eq fun entry failed =>
    (change.isSome_find?_iff entry.1).mpr (covered entry failed)

/-- The comment on a finding in a row for which a text is known. -/
theorem commentOn?_finding (options : Table) (report : Report) {file : String}
    {known : List Source.Suggestion} {place : Source.Location} {patch : Diff.Patch}
    {position : Int} {suggested : String}
    (mapped : Diff.position? patch.spans place.row = some position)
    (confined : Source.suggested? known place.row = some suggested) :
    commentOn? ⟨.formatter true, options, report⟩ file patch
        (Formatter.finding file known place) =
      if '\\' ∈ file.toList then none
      else some ⟨file, position, Formatter.plainBody ++
        (if suggested = "" then "" else Formatter.offer suggested)⟩ := by
  let diagnostic := Formatter.finding file known place
  have meant : Source.meansFile diagnostic.file.toList file.toList = true ↔
      '\\' ∉ file.toList := meansFile_self_iff file.toList
  have placed : Diff.position? patch.spans diagnostic.row = some position := mapped
  have body := Formatter.commentBody_finding options report true file known place
  rw [confined, Option.getD_some] at body
  rw [commentOn?, placed, Option.map_some, body]
  by_cases backslash : '\\' ∈ file.toList
  · rw [if_pos backslash, if_neg (mt meant.mp (not_not_intro backslash))]
  · rw [if_neg backslash, if_pos (meant.mpr backslash)]

section OneLine

variable {host : Host} {options : Table} {folder file : String} {world : World}
  {content : List UInt8} {replacements : List Replacement} {text : String}

/-- If the formatter changes a row into a text of its own, it has one finding in this row. The
    comment on it, wherever the row has a position in the change, ends in the text as a suggestion
    if the text is not empty. If it is empty, there is no suggestion in the comment. There is no
    comment at all on a file with a backslash in its name. -/
theorem oneLineChange_commented
    (both : Formatter.Formats host options folder file world content replacements text)
    {replacement : Replacement} (listed : replacement ∈ replacements)
    {location : Source.Location}
    (located : Source.location? (Source.lineLengths content) replacement.offset = some location)
    {suggested : String}
    (confined : Source.suggested?
      (Source.suggestions (String.ofList (Text.decodeReplacing content)) text) location.row =
        some suggested) :
    ∃ result final diagnostic,
      (Formatter.check host options true folder file).run.run world = (.ok result, final) ∧
      result.passed = false ∧
      (∀ other, other ∈ result.diagnostics ∧ other.row = location.row ↔ other = diagnostic) ∧
      ∀ (report : Report) (change : Diff.Change) (patch : Diff.Patch) (position : Int),
        let checker : Checker := ⟨.formatter true, options, report⟩
        (file, result) ∈ report.failed → checker.Covered change →
        change.find? file = some patch →
        Diff.position? patch.spans location.row = some position →
        ∃ comments, commentsOf change checker = .ok comments ∧
          (∀ comment, commentOn? checker file patch diagnostic = some comment →
            comment ∈ comments) ∧
          commentOn? checker file patch diagnostic =
            if '\\' ∈ file.toList then none
            else some ⟨file, position, Formatter.plainBody ++
              (if suggested = "" then "" else Formatter.offer suggested)⟩ := by
  obtain ⟨result, final, ran, passes, diagnostics⟩ := both.check_run
  obtain ⟨place, row, only⟩ := Formatter.exists_finding file text listed located
  refine ⟨result, final, _, ran, ?fails, diagnostics ▸ only, ?comments⟩
  case fails =>
    rw [passes, List.isEmpty_eq_false_iff]
    exact List.ne_nil_of_mem listed
  case comments =>
    intro report change patch position checker failed covered found mapped
    refine ⟨_, commentsOf_eq covered, ?among, ?body⟩
    case among =>
      intro comment made
      refine List.mem_flatMap.mpr ⟨(file, result), failed, ?_⟩
      rw [commentsOnFile, found]
      have inside := ((only _).mpr rfl).1
      rw [← diagnostics] at inside
      exact List.mem_filterMap.mpr ⟨_, inside, made⟩
    case body =>
      rw [row.symm] at confined mapped
      exact commentOn?_finding options report mapped confined

end OneLine

/-! ## Two rows that lose a blank -/

/-- A program ends well and writes a text. -/
def written (text : String) : Outcome := .finished 0 (Text.encode text.toList) []

/-- The text that a program writes is what its run gives. -/
theorem ofOutcome_written {text : String} (launch : Launch) (unified : '\r' ∉ text.toList) :
    CommandResult.ofOutcome launch (written text) = .ok ⟨0, text, ""⟩ := by
  rw [written, CommandResult.ofOutcome, CommandResult.textOf_plain unified]
  rfl

/-- A file with a blank in an empty row, and with one too many in another row. -/
def spacedFile : List UInt8 := Text.encode "a;\n \nb;\nc  d;\ne;\n".toList

/-- The changes to this file: both blanks are taken out. -/
def spacedChanges : List Replacement := [⟨3, 1, ""⟩, ⟨10, 1, ""⟩]

/-- The text without them. -/
def spacedText : String := "a;\n\nb;\nc d;\ne;\n"

/-- A host on which the formatter reports these changes and writes this text. -/
def spacedHost : Host where
  outcome _ launch :=
    if launch.arguments = ["a.cpp"] then written spacedText
    else written (Replacement.report [] spacedChanges)
  openError _ _ := none
  difference _ _ _ := .ok ""
  refusal _ _ := none
  login := "bot"

/-- A world with this file. -/
def spacedWorld : World := ⟨⟨[(["a.cpp"], spacedFile)]⟩, [], 1, "", []⟩

/-- A change in which the whole file is new. -/
def spacedPatch : Diff.Patch := ⟨"a.cpp", [⟨"@@ -0,0 +1,5 @@", 0, 0, 1, 5, 5⟩], .added⟩

/-- The formatter changes two rows of the file. -/
theorem formats_spaced :
    Formatter.Formats spacedHost [] "." "a.cpp" spacedWorld spacedFile spacedChanges
      spacedText where
  named := ⟨_, rfl⟩
  reports := by
    have reportable : ∀ change ∈ spacedChanges, change.IsReportable := by decide
    have read : Replacement.ofReport (Replacement.report [] spacedChanges) = .ok spacedChanges := by
      rw [Replacement.ofReport, Replacement.read_report .nil reportable]
      exact Replacement.ofList_root reportable
    exact ⟨_, ofOutcome_written _ (by decide +kernel), rfl, read⟩
  formats := ⟨_, ofOutcome_written _ (by decide), rfl, rfl⟩
  stored := rfl

/-- What the formatter suggests: an empty text for the second row. -/
theorem suggestions_spaced :
    Source.suggestions (String.ofList (Text.decodeReplacing spacedFile)) spacedText =
      [⟨2, ""⟩, ⟨4, "c d;"⟩] := by
  rw [spacedFile, Text.decodeReplacing_encode, String.ofList_toList, spacedText]
  cbv

/-- The formatter with a report of one result for the file. -/
def formatterWith (result : FileResult) : Checker :=
  ⟨.formatter true, [], Report.empty.add "a.cpp" result⟩

/-- A result that fails is the only one that the change has to cover. -/
theorem covered_formatterWith {result : FileResult} (fails : result.passed = false) :
    (formatterWith result).report.failed = [("a.cpp", result)] ∧
      (formatterWith result).Covered [("a.cpp", spacedPatch)] := by
  have failed : (formatterWith result).report.failed = [("a.cpp", result)] := by
    rw [formatterWith, Report.add, fails]
    rfl
  refine ⟨failed, fun entry member => ?_⟩
  rw [failed] at member
  rw [List.mem_singleton.mp member]
  exact List.mem_singleton.mpr rfl

/-- The comment on the fourth row offers the row without the blank. -/
theorem oneLineChange_commented_spaced :
    Formatter.Formats spacedHost [] "." "a.cpp" spacedWorld spacedFile spacedChanges spacedText ∧
    ⟨10, 1, ""⟩ ∈ spacedChanges ∧
    Source.location? (Source.lineLengths spacedFile) 10 = some ⟨4, 3⟩ ∧
    Source.suggested? (Source.suggestions (String.ofList (Text.decodeReplacing spacedFile))
      spacedText) 4 = some "c d;" ∧
    Diff.position? spacedPatch.spans 4 = some 4 ∧
    ∃ result final comments,
      (Formatter.check spacedHost [] true "." "a.cpp").run.run spacedWorld = (.ok result, final) ∧
      commentsOf [("a.cpp", spacedPatch)] (formatterWith result) = .ok comments ∧
      ⟨"a.cpp", 4, Formatter.plainBody ++ Formatter.offer "c d;"⟩ ∈ comments := by
  have confined : Source.suggested? (Source.suggestions
      (String.ofList (Text.decodeReplacing spacedFile)) spacedText) 4 = some "c d;" := by
    rw [suggestions_spaced]
    rfl
  have listed : ⟨10, 1, ""⟩ ∈ spacedChanges := by decide
  have located : Source.location? (Source.lineLengths spacedFile) 10 = some ⟨4, 3⟩ := by decide
  have mapped : Diff.position? spacedPatch.spans 4 = some 4 := by decide
  obtain ⟨result, final, diagnostic, ran, fails, -, commented⟩ :=
    oneLineChange_commented formats_spaced listed located confined
  obtain ⟨failed, covered⟩ := covered_formatterWith fails
  obtain ⟨comments, made, among, comment⟩ := commented (formatterWith result).report
    [("a.cpp", spacedPatch)] spacedPatch 4 (failed ▸ List.mem_cons_self) covered rfl mapped
  exact ⟨formats_spaced, listed, located, confined, mapped, result, final, comments, ran, made,
    among _ comment⟩

/-- The empty text that is known for the second row is not offered: there the comment says no more
    than on a row for which nothing is known. -/
theorem emptyLine_not_offered :
    Formatter.Formats spacedHost [] "." "a.cpp" spacedWorld spacedFile spacedChanges spacedText ∧
    ⟨3, 1, ""⟩ ∈ spacedChanges ∧
    Source.location? (Source.lineLengths spacedFile) 3 = some ⟨2, 1⟩ ∧
    Source.suggested? (Source.suggestions (String.ofList (Text.decodeReplacing spacedFile))
      spacedText) 2 = some "" ∧
    Diff.position? spacedPatch.spans 2 = some 2 ∧
    ∃ result final,
      (Formatter.check spacedHost [] true "." "a.cpp").run.run spacedWorld = (.ok result, final) ∧
      commentsOf [("a.cpp", spacedPatch)] (formatterWith result) =
        .ok [⟨"a.cpp", 2, Formatter.plainBody⟩,
          ⟨"a.cpp", 4, Formatter.plainBody ++ Formatter.offer "c d;"⟩] := by
  have confined : Source.suggested? (Source.suggestions
      (String.ofList (Text.decodeReplacing spacedFile)) spacedText) 2 = some "" := by
    rw [suggestions_spaced]
    rfl
  obtain ⟨result, final, ran, passes, diagnostics⟩ := formats_spaced.check_run
  obtain ⟨failed, covered⟩ := covered_formatterWith passes
  refine ⟨formats_spaced, by decide, by decide, confined, by decide, result, final, ran, ?_⟩
  have touched : Source.touched (Source.lineLengths spacedFile)
      (spacedChanges.map Replacement.offset) = [⟨2, 1⟩, ⟨4, 3⟩] := by decide
  rw [commentsOf_eq covered, failed, List.flatMap_singleton]
  unfold commentsOnFile
  dsimp only
  rw [diagnostics, Formatter.findings, suggestions_spaced, touched]
  rfl

end Review

end LintReview
