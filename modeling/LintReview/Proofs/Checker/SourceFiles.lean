import LintReview.Checker.Options
import LintReview.Config
import LintReview.Proofs.Pattern.Extensions

/-!
# Source files

Unless an option says otherwise, the files that are examined are those of the C family, which are
known by their extensions. The written pattern for them is the pattern of these extensions
(`read_sourcePattern`). So whether a file is selected can be read off its path: off its last dot,
what stands behind that, and nothing else (`sourceFiles_selected`).
-/

namespace LintReview.Options

open Pattern

/-- The extensions of source files. -/
def sourceExtensions : List String :=
  ["c", "cc", "cpp", "cxx", "c++", "h", "hh", "hpp", "hxx", "h++", "inl", "ipp", "tpp", "m", "mm",
    "cu", "cuh"]

/-- They are English texts without capitals, dots and newlines. -/
theorem plain_sourceExtensions : ∀ extension ∈ sourceExtensions, IsPlain extension.toList := by
  decide +kernel

/-- The usual pattern is read as that of these extensions. -/
theorem read_sourcePattern :
    Pattern.read Config.sourcePattern.toList = .ok (endingIn sourceExtensions) := by
  decide +kernel

section Usual

variable {options : Table}
  (usual : options.get? "source_iregex" = some (.text Config.sourcePattern))
include usual

/-- With the usual pattern a file is selected if its path matches that of the extensions. -/
theorem selects_eq (file : String) :
    selects options file = .ok ((endingIn sourceExtensions).matchesAll file.toList) := by
  have given : options.given? "source_iregex" = some (.text Config.sourcePattern) := by
    rw [Table.given?, usual]
    rfl
  rw [selects, sourcePattern, given]
  simp only [Except.bind, read_sourcePattern]
  rfl

/-- A file with an English path is selected exactly if the path ends in one of the extensions. -/
theorem selects_english {file : String} (english : Text.IsEnglish file.toList) :
    selects options file = .ok (decide (EndsIn sourceExtensions file.toList)) := by
  have regular : (endingIn sourceExtensions).isRegular = true := by decide +kernel
  rw [selects_eq usual, Except.ok.injEq, Bool.eq_iff_iff, decide_eq_true_iff,
    matchesAll_iff regular, mem_endingIn_english plain_sourceExtensions english]

/-- What stands in front of a dot of an English path does not matter, if it is of one line. -/
theorem selects_behind_dot {front behind : String}
    (english : Text.IsEnglish (front.toList ++ behind.toList))
    (line : '\n' ∉ front.toList) :
    selects options (front ++ "." ++ behind) = selects options ("." ++ behind) := by
  have long : (front ++ "." ++ behind).toList = front.toList ++ '.' :: behind.toList := by simp
  have short : ("." ++ behind).toList = '.' :: behind.toList := by simp
  obtain ⟨englishFront, englishBehind⟩ := List.forall_mem_append.mp english
  have englishShort : Text.IsEnglish ('.' :: behind.toList) :=
    List.forall_mem_cons.mpr ⟨by decide, englishBehind⟩
  have englishLong : Text.IsEnglish (front.toList ++ '.' :: behind.toList) :=
    List.forall_mem_append.mpr ⟨englishFront, englishShort⟩
  rw [selects_english usual (long ▸ englishLong), selects_english usual (short ▸ englishShort),
    long, short, decide_eq_decide.mpr (endsIn_behind_dot_iff plain_sourceExtensions line)]

end Usual

/-- Both checkers begin with the usual pattern. With it, every file with an English path is decided:
    it is selected exactly if the path has no newline and ends, in lower case, in a dot and one of
    the extensions. What stands in front of a dot makes no difference, if it is of one line. -/
theorem sourceFiles_selected :
    (∀ name ∈ [Config.formatterSection, Config.analyzerSection], ∃ options : Table,
      Config.defaults.get? name = some (.table options) ∧
        options.get? "source_iregex" = some (.text Config.sourcePattern)) ∧
    ∀ options : Table, options.get? "source_iregex" = some (.text Config.sourcePattern) →
      (∀ file : String, Text.IsEnglish file.toList →
        ∃ selected, selects options file = .ok selected ∧
          (selected = true ↔ '\n' ∉ file.toList ∧ ∃ extension ∈ sourceExtensions,
            '.' :: extension.toList <:+ file.toList.map Char.toLower)) ∧
      ∀ front behind : String,
        Text.IsEnglish (front.toList ++ behind.toList) → '\n' ∉ front.toList →
          selects options (front ++ "." ++ behind) = selects options ("." ++ behind) := by
  refine ⟨?sections, fun options usual => ⟨?decided, ?apart⟩⟩
  case sections =>
    intro name listed
    rcases List.mem_pair.mp listed with rfl | rfl
    · exact ⟨_, rfl, rfl⟩
    · exact ⟨_, rfl, rfl⟩
  case decided =>
    intro file english
    exact ⟨_, selects_english usual english, decide_eq_true_iff⟩
  case apart =>
    intro front behind english line
    exact selects_behind_dot usual english line

/-- Under the options with which the analyzer begins, capitals and dots in front do no harm, a
    further extension and a newline do, and folders in front of a dot make no difference. -/
theorem sourceFiles_selected_shouted :
    ∃ options : Table, Config.defaults.get? Config.analyzerSection = some (.table options) ∧
      options.get? "source_iregex" = some (.text Config.sourcePattern) ∧
      selects options "src/v1.2/LEXER.C++" = .ok true ∧
      selects options "src/lexer.cpp.orig" = .ok false ∧
      selects options "src/\nlexer.h" = .ok false ∧
      selects options ("a.b/" ++ "." ++ "Tpp") = selects options ("." ++ "Tpp") := by
  obtain ⟨sections, decided⟩ := sourceFiles_selected
  obtain ⟨options, found, usual⟩ := sections Config.analyzerSection (List.mem_pair.mpr (.inr rfl))
  obtain ⟨ofPath, apart⟩ := decided options usual
  have selected (file : String) (english : Text.IsEnglish file.toList)
      (ends : EndsIn sourceExtensions file.toList) : selects options file = .ok true := by
    obtain ⟨selected, run, iff⟩ := ofPath file english
    rw [run, iff.mpr ends]
  have ignored (file : String) (english : Text.IsEnglish file.toList)
      (other : ¬ EndsIn sourceExtensions file.toList) : selects options file = .ok false := by
    obtain ⟨selected, run, iff⟩ := ofPath file english
    rw [run, Bool.eq_false_iff.mpr fun yes => other (iff.mp yes)]
  exact ⟨options, found, usual, selected _ (by decide +kernel) (by decide +kernel),
    ignored _ (by decide +kernel) (by decide +kernel),
    ignored _ (by decide +kernel) (by decide +kernel),
    apart _ _ (by decide +kernel) (by decide +kernel)⟩

end LintReview.Options
