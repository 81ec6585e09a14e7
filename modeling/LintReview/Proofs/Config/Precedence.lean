import LintReview.Proofs.CommandLine.Validation
import LintReview.Proofs.Config.Documents
import LintReview.Proofs.Config.Overlay

/-!
# Which value of the configuration takes precedence

The configuration is made from the defaults with two sources laid over them, the configuration
file and what the command line asks for. A key of a section has the first value that is given by
the command line, the file and the defaults, whatever the other keys of the section have, and so
has every other key of the configuration (`TakesFirstGiven`). What the command line leaves unset
is null in its source and hides nothing.
-/

namespace LintReview.Config

open Table

theorem isSection_iff (key : Setting) :
    isSection key = true ↔ key = .text formatterSection ∨ key = .text analyzerSection := by
  cases key <;> simp [isSection]

theorem isComplete_defaults : IsComplete defaults := by
  refine ⟨⟨by decide, ?_⟩, ?_⟩
  · intro entry member entries table
    simp only [defaults, List.mem_cons, List.not_mem_nil, or_false] at member
    rcases member with rfl | rfl | rfl | rfl
    · cases table
    · cases table
    · cases table
      decide
    · cases table
      decide
  · intro key isSection
    rcases (isSection_iff key).mp isSection with rfl | rfl <;> exact ⟨_, rfl⟩

/-- In a table without nulls every value is given. -/
theorem value?_eq_find? {table : Table} (given : ∀ entry ∈ table, entry.2.isGiven = true)
    (key : Setting) : value? table key = find? table key := by
  cases found : find? table key with
  | none => rw [value?, found, Option.filter_none]
  | some value =>
    obtain ⟨known, member, -⟩ := mem_of_find? found
    rw [value?, found, Option.filter_some, if_pos (given _ member)]

/-- The defaults are without nulls. -/
theorem defaults_given : ∀ entry ∈ defaults, entry.2.isGiven = true := by decide

/-- So are those of each section. -/
theorem section_defaults_given {key : Setting} (isSection : isSection key = true) :
    ∀ entry ∈ sectionIn defaults key, entry.2.isGiven = true := by
  rcases (isSection_iff key).mp isSection with rfl | rfl <;> decide

/-- The values of a configuration are those that are given first, by the command line, the
    configuration file or the defaults. -/
structure TakesFirstGiven (file overrides config : Table) : Prop where
  nests : config.NestsMappings
  /-- Each section is there, with the values that are given first, and keeps the keys of the
      defaults. -/
  sections : ∀ key, isSection key = true → ∃ entries, find? config key = some (.table entries) ∧
    (∀ inner, find? entries inner =
      firstGiven inner [sectionIn overrides key, sectionIn file key, sectionIn defaults key]) ∧
    ∀ entry ∈ sectionIn defaults key, (find? entries entry.1).isSome = true
  /-- Any other value is taken whole. -/
  others : ∀ key, isSection key = false →
    find? config key = firstGiven key [overrides, file, defaults]

/-- Two sources that are laid over the defaults, one after the other, give a configuration of
    which every value is the one that is given first. -/
theorem takesFirstGiven_overlaid {file overrides : Table} (first : IsSource file)
    (second : IsSource overrides) :
    TakesFirstGiven file overrides
      (overlaid (overlaid defaults file) overrides) := by
  have merged := isComplete_defaults.overlaid first
  refine ⟨(merged.overlaid second).nests, ?_, ?_⟩
  · intro key isSection
    have own := sectionIn_of_find? (find?_section first isComplete_defaults.sections isSection)
    have values (inner : Setting) :
        find? (lay (lay (sectionIn defaults key) (sectionIn file key)) (sectionIn overrides key))
          inner = firstGiven inner
            [sectionIn overrides key, sectionIn file key, sectionIn defaults key] := by
      rw [find?_lay (sectionIn_mapping second.nests key),
        find?_lay (sectionIn_mapping first.nests key),
        ← value?_eq_find? (section_defaults_given isSection)]
      simp
    refine ⟨_, find?_section second merged.sections isSection, own ▸ values, ?_⟩
    intro entry member
    have usual := (sectionIn_mapping isComplete_defaults.nests key).value?_of_mem member
      (section_defaults_given isSection entry member)
    rw [own, values, firstGiven_cons, firstGiven_cons, firstGiven_cons, usual]
    simp
  · intro key other
    rw [find?_other second other, find?_other first other, ← value?_eq_find? defaults_given]
    simp

/-- A source of sections alone gives no other key. -/
theorem value?_of_sections {source : Table} (only : ∀ entry ∈ source, isSection entry.1 = true)
    {key : Setting} (other : isSection key = false) : value? source key = none := by
  cases found : find? source key with
  | none => rw [value?, found, Option.filter_none]
  | some value =>
    obtain ⟨known, member, same⟩ := mem_of_find? found
    rw [← isSection_congr same, only _ member] at other
    cases other

/-- The configuration from two sources. -/
theorem layered_eq {file overrides : Table} (first : IsSource file)
    (second : IsSource overrides) :
    layered file overrides = .ok (overlaid (overlaid defaults file) overrides) := by
  have merged := isComplete_defaults.overlaid first
  rw [layered, overlay_eq first.nests.mapping first.plain isComplete_defaults.sections]
  change (overlay _ overrides >>= fun _ => _) = _
  rw [overlay_eq second.nests.mapping second.plain merged.sections]
  rfl

end LintReview.Config

namespace LintReview

open Config

namespace CommandLine

namespace CheckerRequest

variable (request : CheckerRequest)

/-- The keys of the entries that a request gives for a checker's section. -/
theorem keys_entries : request.entries.map Prod.fst =
    [.text "enabled", .text "binary", .text "fast_exit"] := rfl

theorem entries_mapping : Table.IsMapping request.entries :=
  .of_keys request.keys_entries (by decide) (by decide)

theorem entries_plain : ∀ entry ∈ request.entries, isSection entry.1 = false := by
  have keys : ∀ key ∈ request.entries.map Prod.fst, isSection key = false := by
    rw [keys_entries]
    decide
  exact fun entry member => keys _ (List.mem_map_of_mem member)

/-- The request sets no option for the entry of the checker's section. -/
def LeavesUnset (name : String) : Prop :=
  (name = "enabled" → request.takesPart = none) ∧ (name = "binary" → request.program = none) ∧
    (name = "fast_exit" → request.stopsEarly = none)

/-- What is not set is not given. -/
theorem value?_unset {request : CheckerRequest} {name : String}
    (unset : request.LeavesUnset name) : Table.value? request.entries (.text name) = none := by
  obtain ⟨takesPart, program, stopsEarly⟩ := unset
  have same (first second : String) :
      (Setting.text first).sameKey (.text second) = true → second = first := by
    simp [Setting.sameKey, eq_comm]
  rw [entries, Table.value?_cons, Table.value?_cons, Table.value?_cons]
  split
  · next here => rw [takesPart (same _ _ here)]; rfl
  · split
    · next here => rw [program (same _ _ here)]; rfl
    · split
      · next here => rw [stopsEarly (same _ _ here)]; rfl
      · rfl

end CheckerRequest

theorem RunRequest.keys_overrides (request : RunRequest) : request.overrides.map Prod.fst =
    [.text analyzerSection, .text formatterSection] := rfl

/-- A request gives sections alone. -/
theorem RunRequest.sections_only (request : RunRequest) :
    ∀ entry ∈ request.overrides, isSection entry.1 = true := by
  have keys : ∀ key ∈ request.overrides.map Prod.fst, isSection key = true := by
    rw [keys_overrides]
    decide
  exact fun entry member => keys _ (List.mem_map_of_mem member)

/-- What a request lays over the configuration file is a source. -/
theorem RunRequest.isSource (request : RunRequest) : IsSource request.overrides := by
  have sections : ∀ entry ∈ request.overrides, ∃ checker : CheckerRequest,
      entry.2 = .table checker.entries := by
    intro entry member
    rcases List.mem_cons.mp member with rfl | later
    · exact ⟨_, rfl⟩
    · obtain rfl := List.mem_singleton.mp later
      exact ⟨_, rfl⟩
  have mapping : Table.IsMapping request.overrides :=
    .of_keys request.keys_overrides (by decide) (by decide)
  refine ⟨⟨mapping, ?_⟩, ?_⟩
  · intro entry member entries table
    obtain ⟨checker, given⟩ := sections entry member
    obtain rfl := Setting.table.inj (given.symm.trans table)
    exact checker.entries_mapping
  · intro entry member _
    obtain ⟨checker, given⟩ := sections entry member
    exact .inr ⟨_, given, checker.entries_plain⟩

end CommandLine

/-- The configuration of a run, where each section of the configuration file and of what is laid
    over it is null or a mapping without sections of its own. Every key of a section has the
    first value that is given by what is laid over the file, by the file or by the defaults, and
    so has every other key, whose value is taken whole. Nulls change nothing, and each source
    changes nothing more when it is laid over a second time. An option that is not set on the
    command line leaves the value of the file or the default. -/
theorem Config.load_takes_first_given {tree : FileTree} {path : String} {file : Table}
    (read : fileEntries tree path = .ok file) (plain : PlainSections file) :
    (∀ overrides, IsSource overrides → ∃ merged config,
      load tree path overrides = .ok config ∧ TakesFirstGiven file overrides config ∧
      layered (withoutNulls file) (withoutNulls overrides) = .ok config ∧
      overlay (.table defaults) file = .ok (.table merged) ∧
      overlay (.table merged) file = .ok (.table merged) ∧
      overlay (.table merged) overrides = .ok (.table config) ∧
      overlay (.table config) overrides = .ok (.table config)) ∧
    ∀ request : CommandLine.RunRequest, ∃ config,
      load tree path request.overrides = .ok config ∧
      (∀ key checker, (key, checker) ∈
          [(.text analyzerSection, request.analyzer), (.text formatterSection, request.formatter)] →
        ∃ entries, Table.find? config key = some (.table entries) ∧
          ∀ name, checker.LeavesUnset name → Table.find? entries (.text name) =
            Table.firstGiven (.text name) [sectionIn file key, sectionIn defaults key]) ∧
      ∀ key, isSection key = false →
        Table.find? config key = Table.firstGiven key [file, defaults] := by
  have first : IsSource file := ⟨fileEntries_nests read, plain⟩
  have merged := isComplete_defaults.overlaid first
  have loaded {overrides : Table} (second : IsSource overrides) :
      load tree path overrides = .ok (overlaid (overlaid defaults file) overrides) := by
    rw [load, read]
    exact layered_eq first second
  constructor
  · intro overrides second
    refine ⟨overlaid defaults file, _, loaded second, takesFirstGiven_overlaid first second, ?_,
      overlay_eq first.nests.mapping plain isComplete_defaults.sections,
      overlay_again isComplete_defaults first,
      overlay_eq second.nests.mapping second.plain merged.sections, overlay_again merged second⟩
    rw [layered_withoutNulls, layered_eq first second]
  · intro request
    have second := request.isSource
    have values := takesFirstGiven_overlaid first second
    refine ⟨_, loaded second, ?_, ?_⟩
    · intro key checker member
      have isSection : isSection key = true ∧
          sectionIn request.overrides key = checker.entries := by
        rcases List.mem_cons.mp member with same | later
        · cases same
          exact ⟨by decide, rfl⟩
        · cases List.mem_singleton.mp later
          exact ⟨by decide, rfl⟩
      obtain ⟨entries, found, given, -⟩ := values.sections key isSection.1
      refine ⟨entries, found, fun name unset => ?_⟩
      rw [given, isSection.2, Table.firstGiven_cons,
        CommandLine.CheckerRequest.value?_unset unset, Option.none_or]
    · intro key other
      have absent : Table.value? request.overrides key = none :=
        value?_of_sections request.sections_only other
      rw [values.others key other, Table.firstGiven_cons, absent, Option.none_or]

/-- A folder whose configuration file names checks and a program that is null. -/
def Config.checksTree : FileTree :=
  ⟨[([".lintlens.yml"], Text.encode "clang_tidy: {checks: x, binary: }".toList)]⟩

/-- What the configuration file holds. -/
def Config.checksFile : Table :=
  [(.text "clang_tidy", .table [(.text "checks", .text "x"), (.text "binary", .null)])]

/-- The result of reading is what the configuration file holds. -/
def Config.isChecksFile : Except Error Table → Bool
  | .ok [(.text name, .table [(.text first, .text value), (.text second, .null)])] =>
    name = "clang_tidy" && first = "checks" && value = "x" && second = "binary"
  | _ => false

/-- Equality of results has no decision, but this comparison evaluates. -/
theorem Config.eq_of_isChecksFile {result : Except Error Table}
    (same : isChecksFile result = true) : result = .ok checksFile := by
  unfold isChecksFile at same
  split at same
  · simp only [Bool.and_eq_true, decide_eq_true_eq] at same
    obtain ⟨⟨⟨rfl, rfl⟩, rfl⟩, rfl⟩ := same
    rfl
  · cases same

/-- A request that sets one option. -/
def Config.hastyRequest : CommandLine.RunRequest where
  options := {}
  analyzer := ⟨none, none, some true⟩
  formatter := ⟨none, none, none⟩

/-- The checks come from the file, the program from the defaults, and only what is set on the
    command line from there. -/
theorem Config.load_takes_first_given_hastily :
    fileEntries checksTree ".lintlens.yml" = .ok checksFile ∧ PlainSections checksFile ∧
    ∃ config entries,
      load checksTree ".lintlens.yml" hastyRequest.overrides = .ok config ∧
      TakesFirstGiven checksFile hastyRequest.overrides config ∧
      Table.find? config (.text analyzerSection) = some (.table entries) ∧
      Table.find? entries (.text "checks") = some (.text "x") ∧
      Table.find? entries (.text "binary") = some (.text "clang-tidy") ∧
      Table.find? entries (.text "fast_exit") = some (.flag true) := by
  have read : fileEntries checksTree ".lintlens.yml" = .ok checksFile :=
    eq_of_isChecksFile (by decide +kernel)
  have plain : PlainSections checksFile := by
    intro entry member _
    obtain rfl := List.mem_singleton.mp member
    exact .inr ⟨_, rfl, by decide⟩
  obtain ⟨merged, config, loaded, values, -⟩ :=
    (load_takes_first_given read plain).1 hastyRequest.overrides hastyRequest.isSource
  obtain ⟨entries, found, given, -⟩ := values.sections (.text analyzerSection) (by decide)
  exact ⟨read, plain, config, entries, loaded, values, found, given _, given _, given _⟩

end LintReview
