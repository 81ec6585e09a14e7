import LintReview.Proofs.Text.Parts
import LintReview.Source.FileName

/-!
# Names of files and their components

A reported name means a file of the repository exactly if the components of the file's path
are the last components of the name (`meansFile_iff`). So every file without a backslash in its
path means itself, a name that means a file goes on doing so in any folder, and an end of a name
that begins inside of a component is never meant (`whole_components_meant`). The name of another
file may end in the same way: because the other file lies deeper, or because the folder of the
repository does (`meansFile_other_iff`, `meansFile_rooted_iff`).
-/

namespace LintReview

namespace Source

/-- A path in a folder has the components of the folder and then its own. -/
theorem components_append (folder path : List Char) :
    components (folder ++ '/' :: path) = components folder ++ components path :=
  Text.split_append '/' folder path

/-- Paths with the same components are the same. -/
theorem components_injective : Function.Injective components := by
  intro first second same
  rw [← Text.join_split '/' first, ← Text.join_split '/' second]
  exact congrArg (Text.join ['/']) same

/-- A path has further components in front of those of another exactly if it is the other path
    in a folder that has these components. -/
theorem components_eq_append_iff {path file : List Char} {front : List (List Char)}
    (further : front ≠ []) :
    components path = front ++ components file ↔
      ∃ folder, path = folder ++ '/' :: file ∧ components folder = front := by
  constructor
  · intro parts
    have whole : path = Text.join ['/'] front ++ '/' :: file := by
      have joined := Text.join_append ['/'] further (Text.split_ne_nil '/' file)
      rw [Text.join_split, ← components, ← parts, components, Text.join_split] at joined
      rw [joined, List.append_assoc, List.singleton_append]
    refine ⟨Text.join ['/'] front, whole, ?_⟩
    rw [whole, components_append] at parts
    exact List.append_cancel_right parts
  · rintro ⟨folder, rfl, rfl⟩
    exact components_append folder file

/-- A path ends with the components of another exactly if it is the other path, by itself or in
    a folder. -/
theorem components_suffix_iff {path file : List Char} :
    components file <:+ components path ↔
      path = file ∨ ∃ folder, path = folder ++ '/' :: file := by
  constructor
  · rintro ⟨front, parts⟩
    by_cases none : front = []
    · rw [none, List.nil_append] at parts
      exact .inl (components_injective parts.symm)
    · obtain ⟨folder, inside, -⟩ := (components_eq_append_iff none).mp parts.symm
      exact .inr ⟨folder, inside⟩
  · rintro (rfl | ⟨folder, rfl⟩)
    · exact List.suffix_refl _
    · rw [components_append]
      exact List.suffix_append _ _

/-- A reported name means a file exactly if it ends with the components of the file's path. -/
theorem meansFile_iff {reported file : List Char} :
    meansFile reported file = true ↔
      components file <:+ components (forwardSlashes reported) := by
  rw [components_suffix_iff, meansFile, Bool.or_eq_true, beq_iff_eq, List.isSuffixOf_iff_suffix]
  constructor
  · rintro (same | ⟨folder, inside⟩)
    · exact .inl same
    · exact .inr ⟨folder, inside.symm⟩
  · rintro (same | ⟨folder, inside⟩)
    · exact .inl same
    · exact .inr ⟨folder, inside.symm⟩

/-- Where there is no backslash, the slashes stay as they are. -/
theorem forwardSlashes_eq {path : List Char} (forward : '\\' ∉ path) :
    forwardSlashes path = path := by
  unfold forwardSlashes
  refine (List.map_congr_left fun character member => ?_).trans (List.map_id path)
  have other : character ≠ '\\' := fun same => forward (same ▸ member)
  simp [other]

theorem forwardSlashes_append (first second : List Char) :
    forwardSlashes (first ++ second) = forwardSlashes first ++ forwardSlashes second :=
  List.map_append

/-- After the reading no backslash is left. -/
theorem not_mem_forwardSlashes (path : List Char) : '\\' ∉ forwardSlashes path := by
  intro member
  obtain ⟨character, -, turned⟩ := List.mem_map.mp member
  split at turned
  · exact absurd turned (by decide)
  · next other => exact other turned

/-- A path with a backslash is never meant. -/
theorem forward_of_meansFile {reported file : List Char} (means : meansFile reported file = true) :
    '\\' ∉ file := by
  intro member
  apply not_mem_forwardSlashes reported
  rcases components_suffix_iff.mp (meansFile_iff.mp means) with same | ⟨folder, inside⟩
  · exact same ▸ member
  · rw [inside]
    exact List.mem_append_right folder (List.mem_cons_of_mem '/' member)

/-- What is in front of a component stays in front of it, with either kind of slash between. -/
theorem components_separated {separator : Char} (slash : separator = '/' ∨ separator = '\\')
    (folder path : List Char) :
    components (forwardSlashes (folder ++ separator :: path)) =
      components (forwardSlashes folder) ++ components (forwardSlashes path) := by
  have turned : forwardSlashes (separator :: path) = '/' :: forwardSlashes path := by
    rcases slash with rfl | rfl <;> rfl
  rw [forwardSlashes_append, turned, components_append]

/-- A reported name means a file exactly if it ends with the components of the file's path. Each
    path without a backslash means itself; a name means what is meant by a path that it means; a
    name in a folder means what it means by itself; and a path with which a name ends is not meant
    if it begins inside of a component. -/
theorem whole_components_meant :
    (∀ reported file : List Char, meansFile reported file = true ↔
      components file <:+ components (forwardSlashes reported)) ∧
    (∀ path : List Char, '\\' ∉ path → meansFile path path = true) ∧
    (∀ first second third : List Char, meansFile first second = true →
      meansFile second third = true → meansFile first third = true) ∧
    (∀ (folder reported file : List Char) (separator : Char),
      separator = '/' ∨ separator = '\\' → meansFile reported file = true →
        meansFile (folder ++ separator :: reported) file = true) ∧
    ∀ (reported front file : List Char) (last : Char),
      forwardSlashes reported = front ++ [last] ++ file → last ≠ '/' →
        meansFile reported file = false := by
  refine ⟨fun _ _ => meansFile_iff, ?reflexive, ?transitive, ?folder, ?inside⟩
  case reflexive =>
    intro path forward
    have same : components (forwardSlashes path) = components path :=
      congrArg components (forwardSlashes_eq forward)
    exact meansFile_iff.mpr (same ▸ List.suffix_refl _)
  case transitive =>
    intro first second third one two
    rw [meansFile_iff, forwardSlashes_eq (forward_of_meansFile one)] at two
    exact meansFile_iff.mpr (two.trans (meansFile_iff.mp one))
  case folder =>
    intro folder reported file separator slash means
    rw [meansFile_iff, components_separated slash]
    exact (meansFile_iff.mp means).trans (List.suffix_append _ _)
  case inside =>
    intro reported front file last ending other
    rw [Bool.eq_false_iff, ne_eq, meansFile_iff, components_suffix_iff, ending]
    rintro (same | ⟨folder, same⟩)
    · have longer := congrArg List.length same
      simp only [List.length_append, List.length_singleton] at longer
      omega
    · -- what stands in front of the path would end in a slash
      rw [List.append_cons folder, List.append_left_inj, List.append_singleton_inj] at same
      exact other same.2

/-- A name with backslashes means the file in the inner folder, also in a folder of its own, and
    not the one whose name is only the end of a component. -/
theorem whole_components_meant_inFolder :
    let reported := "src\\lib\\io.h".toList
    (meansFile reported "lib/io.h".toList = true ↔
      components "lib/io.h".toList <:+ components (forwardSlashes reported)) ∧
    meansFile "lib/io.h".toList "lib/io.h".toList = true ∧
    meansFile reported "io.h".toList = true ∧
    meansFile ("C:".toList ++ '\\' :: reported) "lib/io.h".toList = true ∧
    meansFile reported "o.h".toList = false := by
  intro reported
  obtain ⟨whole, reflexive, transitive, folder, inside⟩ := whole_components_meant
  have means : meansFile reported "lib/io.h".toList = true := by decide
  refine ⟨whole _ _, reflexive _ (by decide), transitive _ _ _ means (by decide),
    folder _ _ _ _ (.inr rfl) means, inside _ "src/lib/".toList _ 'i' (by decide) (by decide)⟩

section Others

variable {root file other : List Char}

/-- The path of another file means the file exactly if the other lies in a folder at whose end
    stands the path of the file. -/
theorem meansFile_other_iff (differ : file ≠ other) (forward : '\\' ∉ other) :
    meansFile other file = true ↔ ∃ folder, other = folder ++ '/' :: file := by
  rw [meansFile_iff, forwardSlashes_eq forward, components_suffix_iff]
  constructor
  · rintro (same | inside)
    · exact absurd same.symm differ
    · exact inside
  · exact .inr

/-- The path of another file behind the root of the repository means the file in one more case:
    the file has the other path in folders that the root ends with. -/
theorem meansFile_rooted_iff (differ : file ≠ other) (forward : '\\' ∉ other) :
    meansFile (root ++ '/' :: other) file = true ↔
      (∃ folder, other = folder ++ '/' :: file) ∨
        ∃ folder, file = folder ++ '/' :: other ∧
          components folder <:+ components (forwardSlashes root) := by
  have slash : forwardSlashes ('/' :: other) = '/' :: other :=
    forwardSlashes_eq (by simpa using forward)
  rw [meansFile_iff, forwardSlashes_append, slash, components_append]
  constructor
  · intro ending
    rcases List.suffix_or_suffix_of_suffix ending (List.suffix_append _ _) with within | beyond
    · rcases components_suffix_iff.mp within with same | inside
      · exact absurd same.symm differ
      · exact .inl inside
    · obtain ⟨front, parts⟩ := beyond
      have further : front ≠ [] := by
        rintro rfl
        exact differ (components_injective parts).symm
      obtain ⟨folder, inside, rfl⟩ := (components_eq_append_iff further).mp parts.symm
      rw [← parts, List.suffix_append_self_iff] at ending
      exact .inr ⟨folder, inside, ending⟩
  · rintro (⟨folder, rfl⟩ | ⟨folder, rfl, within⟩)
    · rw [components_append]
      exact (List.suffix_append _ _).trans (List.suffix_append _ _)
    · rw [components_append, List.suffix_append_self_iff]
      exact within

end Others

end Source

end LintReview
