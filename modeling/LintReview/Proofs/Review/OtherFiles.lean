import LintReview.Proofs.Source.Components
import LintReview.Review

/-!
# Diagnostics of other files

A checker that examines one file also reports on others, such as the headers it includes. A
diagnostic of another file is not to become a comment on the file under review, and it does
not, unless the two names cannot be told apart by their ends (`Confused`): the other file lies
deeper under the same name, or the file under review lies in folders of the same names as
those at the end of the repository's own path.
-/

namespace LintReview.Review

/-- How a diagnostic names a file of the repository: by its path, or by its path behind that of
    the repository's root. -/
def reportedName (root : Option String) (path : String) : String :=
  match root with
  | none => path
  | some root => root ++ "/" ++ path

/-- The name that is reported for another file ends with the components of the file's path. -/
inductive Confused (file other : String) : Option String → Prop where
  /-- The other file lies in a folder in which the path of the file stands once more. -/
  | deeper {root : Option String} (folder : String) (inside : other = folder ++ "/" ++ file) :
      Confused file other root
  /-- The file lies in folders that stand at the end of the root as well, and from there on its
      path is that of the other file. -/
  | rooted {root : String} (folder : String) (inside : file = folder ++ "/" ++ other)
      (ending : Source.components folder.toList <:+
        Source.components (Source.forwardSlashes root.toList)) :
      Confused file other (some root)

/-- A path that is made of a folder and a path inside it, character by character. -/
theorem inFolder_iff {path folder inside : String} :
    path = folder ++ "/" ++ inside ↔ path.toList = folder.toList ++ '/' :: inside.toList := by
  rw [← String.toList_inj]
  simp

/-- The name that is reported for another file means the file exactly if the two are
    confused. -/
theorem meansFile_reportedName_iff {root : Option String} {file other : String}
    (differ : file ≠ other) (forward : '\\' ∉ other.toList) :
    Source.meansFile (reportedName root other).toList file.toList = true ↔
      Confused file other root := by
  have unlike : file.toList ≠ other.toList := fun same => differ (String.toList_inj.mp same)
  have named (folder : List Char) : folder = (String.ofList folder).toList :=
    String.toList_ofList.symm
  cases root with
  | none =>
    rw [reportedName, Source.meansFile_other_iff unlike forward]
    constructor
    · rintro ⟨folder, inside⟩
      rw [named folder, ← inFolder_iff] at inside
      exact .deeper _ inside
    · rintro ⟨folder, inside⟩
      exact ⟨folder.toList, inFolder_iff.mp inside⟩
  | some root =>
    have path : (reportedName (some root) other).toList = root.toList ++ '/' :: other.toList :=
      inFolder_iff.mp rfl
    rw [path, Source.meansFile_rooted_iff unlike forward]
    constructor
    · rintro (⟨folder, inside⟩ | ⟨folder, inside, ending⟩)
      · rw [named folder, ← inFolder_iff] at inside
        exact .deeper _ inside
      · rw [named folder] at inside ending
        exact .rooted _ (inFolder_iff.mpr inside) ending
    · rintro (⟨folder, inside⟩ | ⟨folder, inside, ending⟩)
      · exact .inl ⟨folder.toList, inFolder_iff.mp inside⟩
      · exact .inr ⟨folder.toList, inFolder_iff.mp inside, ending⟩

/-- The same checker with other results for the files that failed. -/
def withFailed (checker : Checker) (failed : List (String × FileResult)) : Checker :=
  { checker with report := { checker.report with failed := failed } }

/-- What a checker says on a file does not depend on its other results. -/
theorem commentsOnFiles_withFailed (checker : Checker) (failed : List (String × FileResult))
    (change : Diff.Change) (entries : List (String × FileResult)) :
    commentsOnFiles (withFailed checker failed) change entries =
      commentsOnFiles checker change entries := by
  induction entries with
  | nil => rfl
  | cons entry rest inductionHypothesis =>
    obtain ⟨file, result⟩ := entry
    rw [commentsOnFiles, commentsOnFiles, inductionHypothesis]
    rfl

/-- Two results that lead to the same comments on a file lead to the same comments among those
    on other files. -/
theorem commentsOnFiles_congr {checker : Checker} {change : Diff.Change} {file : String}
    {result other : FileResult} (before after : List (String × FileResult))
    (same : ∀ patch, change.find? file = some patch →
      result.diagnostics.filterMap (commentOn? checker file patch) =
        other.diagnostics.filterMap (commentOn? checker file patch)) :
    commentsOnFiles checker change (before ++ (file, result) :: after) =
      commentsOnFiles checker change (before ++ (file, other) :: after) := by
  induction before with
  | nil =>
    rw [List.nil_append, List.nil_append, commentsOnFiles, commentsOnFiles]
    cases known : change.find? file with
    | none => rfl
    | some patch => simp only [same patch known]
  | cons entry rest inductionHypothesis =>
    obtain ⟨first, found⟩ := entry
    rw [List.cons_append, List.cons_append, commentsOnFiles, commentsOnFiles, inductionHypothesis]

/-- A diagnostic that a checker reported for another file, in the results for a file that failed.
    If the two files are not confused, the checker makes the same comments, or fails in the same
    way, as if it had not reported the diagnostic. If they are, the diagnostic becomes a comment
    on the file exactly if its row has a position there. -/
theorem comments_of_others {checker : Checker} {change : Diff.Change} {root : Option String}
    {file other : String} {result : FileResult} {diagnostic : Diagnostic}
    {before after : List (String × FileResult)} {earlier later : List Diagnostic}
    (differ : file ≠ other) (forward : '\\' ∉ other.toList)
    (named : diagnostic.file = reportedName root other)
    (failed : checker.report.failed = before ++ (file, result) :: after)
    (reported : result.diagnostics = earlier ++ diagnostic :: later) :
    (¬ Confused file other root →
      commentsOf change checker = commentsOf change (withFailed checker
        (before ++ (file, { result with diagnostics := earlier ++ later }) :: after))) ∧
    (Confused file other root → ∀ patch,
      commentOn? checker file patch diagnostic =
        (Diff.position? patch.spans diagnostic.row).map fun position =>
          ⟨file, position, checker.commentBody diagnostic⟩) := by
  have means : Source.meansFile diagnostic.file.toList file.toList = true ↔
      Confused file other root := named ▸ meansFile_reportedName_iff differ forward
  constructor
  · intro distinct
    have silent (patch : Diff.Patch) : commentOn? checker file patch diagnostic = none := by
      unfold commentOn?
      rw [if_neg fun same => distinct (means.mp same)]
    rw [commentsOf, commentsOf, commentsOnFiles_withFailed, failed]
    apply commentsOnFiles_congr
    intro patch _
    rw [reported, List.filterMap_append, List.filterMap_append, List.filterMap_cons, silent]
  · intro confused patch
    unfold commentOn?
    rw [if_pos (means.mpr confused)]

/-- A diagnostic in row two that is reported under a name. -/
def stray (reported : String) : Diagnostic := ⟨reported, 2, 1, "warning", "stray", "[t]", ""⟩

/-- The result for a file that failed with diagnostics. -/
def failedWith (file : String) (diagnostics : List Diagnostic) : FileResult where
  file := file
  passed := false
  diagnostics := diagnostics

/-- A checker that has found one diagnostic, reported under a name, when it examined a file. -/
def strayFinding (file reported : String) : Checker where
  kind := .analyzer
  options := []
  report := { Report.empty with failed := [(file, failedWith file [stray reported])] }

/-- A change that shows the first three rows of a file. -/
def threeRows (file : String) : Diff.Change :=
  [(file, ⟨file, [⟨"@@ -1,3 +1,3 @@", 1, 3, 1, 3, 3⟩], .modified⟩)]

/-- A header of another folder is not taken for the source file that includes it. -/
theorem comments_of_others_header :
    "src/a.cpp" ≠ "include/a.h" ∧ '\\' ∉ "include/a.h".toList ∧
    (stray "/work/include/a.h").file = reportedName (some "/work") "include/a.h" ∧
    ¬ Confused "src/a.cpp" "include/a.h" (some "/work") ∧
    commentsOf (threeRows "src/a.cpp") (strayFinding "src/a.cpp" "/work/include/a.h") =
      commentsOf (threeRows "src/a.cpp")
        (withFailed (strayFinding "src/a.cpp" "/work/include/a.h")
          [("src/a.cpp", failedWith "src/a.cpp" [])]) := by
  have differ : "src/a.cpp" ≠ "include/a.h" := by decide
  have forward : '\\' ∉ "include/a.h".toList := by decide
  have named : (stray "/work/include/a.h").file = reportedName (some "/work") "include/a.h" := by
    decide
  have distinct : ¬ Confused "src/a.cpp" "include/a.h" (some "/work") := by
    rw [← meansFile_reportedName_iff differ forward]
    decide
  have failed : (strayFinding "src/a.cpp" "/work/include/a.h").report.failed =
      [] ++ ("src/a.cpp", failedWith "src/a.cpp" [stray "/work/include/a.h"]) :: [] := rfl
  have reported : (failedWith "src/a.cpp" [stray "/work/include/a.h"]).diagnostics =
      [] ++ stray "/work/include/a.h" :: [] := rfl
  exact ⟨differ, forward, named, distinct,
    (comments_of_others differ forward named failed reported).1 distinct⟩

/-- A diagnostic of a header below a folder becomes a comment on the header of the same name
    that is not in the folder. -/
theorem comments_on_same_name :
    "config.h" ≠ "src/config.h" ∧ (stray "src/config.h").file = reportedName none "src/config.h" ∧
    commentsOf (threeRows "config.h") (strayFinding "config.h" "src/config.h") =
      .ok [⟨"config.h", 2, "stray [t]"⟩] :=
  ⟨by decide, rfl, rfl⟩

end LintReview.Review
