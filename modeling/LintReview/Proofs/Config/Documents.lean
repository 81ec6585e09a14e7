import LintReview.Config
import LintReview.Proofs.Config.Tables

/-!
# The tables of a document

A document gives its tables by putting the entries of its mappings one after the other, and it
refuses a key that is a list or a table. So each table that it gives is a mapping
(`Node.value_table`), at whatever depth, and so is the configuration file with the tables in it
(`Config.fileEntries_nests`).
-/

namespace LintReview

section Results

variable {ε α β : Type} {act : Except ε α} {result : β}

/-- What follows a value has the value. -/
theorem exists_ok_of_bind {next : α → Except ε β} (bound : (act >>= next) = .ok result) :
    ∃ value, act = .ok value ∧ next value = .ok result := by
  cases act with
  | error cause => cases bound
  | ok value => exact ⟨value, rfl, bound⟩

theorem exists_ok_of_map {form : α → β} (mapped : act.map form = .ok result) :
    ∃ value, act = .ok value ∧ form value = result := by
  cases act with
  | error cause => cases mapped
  | ok value => exact ⟨value, rfl, Except.ok.inj mapped⟩

end Results

namespace Yaml

/-- Entries whose keys are keys and whose values are those of nodes. -/
def AreRead (entries : List (Setting × Setting)) : Prop :=
  ∀ entry ∈ entries, entry.1.IsKey ∧ ∃ node, Node.value node = .ok entry.2

theorem AreRead.append {first second : List (Setting × Setting)} (one : AreRead first)
    (other : AreRead second) : AreRead (first ++ second) :=
  List.forall_mem_append.mpr ⟨one, other⟩

/-- A setting that is no list and no table can be a key. -/
theorem keyed_eq_ok {key value : Setting} {entry : Setting × Setting}
    (made : keyed key value = .ok entry) : entry = (key, value) ∧ key.IsKey := by
  have itself : key.keyValue? ≠ none → key.IsKey := fun known =>
    (Setting.sameKey_iff key key).mpr ⟨rfl, known⟩
  cases key with
  | list items => cases made
  | table entries => cases made
  | _ =>
    cases made
    exact ⟨rfl, itself (by simp [Setting.keyValue?])⟩

mutual

/-- The entries that pairs of nodes give are read from nodes. -/
theorem entriesOf_areRead : ∀ (entries : List (Node × Node)) (found : Entries),
    entriesOf entries = .ok found → AreRead found.merged ∧ AreRead found.own
  | [], found, read => by
    cases read
    exact ⟨List.forall_mem_nil _, List.forall_mem_nil _⟩
  | (key, value) :: rest, found, read => by
    rw [entriesOf] at read
    split at read
    · obtain ⟨merged, front, read⟩ := exists_ok_of_bind read
      obtain ⟨others, later, read⟩ := exists_ok_of_bind read
      cases read
      obtain ⟨left, right⟩ := entriesOf_areRead rest others later
      exact ⟨(mergedOf_areRead value merged front).append left, right⟩
    · have settled (named : Setting) (read : (do
          let given ← value.value
          let entry ← keyed named given
          let others ← entriesOf rest
          return (⟨others.merged, entry :: others.own⟩ : Entries)) = .ok found) :
          AreRead found.merged ∧ AreRead found.own := by
        obtain ⟨given, valued, read⟩ := exists_ok_of_bind read
        obtain ⟨entry, made, read⟩ := exists_ok_of_bind read
        obtain ⟨others, later, read⟩ := exists_ok_of_bind read
        cases read
        obtain ⟨rfl, isKey⟩ := keyed_eq_ok made
        obtain ⟨left, right⟩ := entriesOf_areRead rest others later
        exact ⟨left, List.forall_mem_cons.mpr ⟨⟨isKey, value, valued⟩, right⟩⟩
      dsimp only at read
      split at read
      · obtain ⟨named, _, read⟩ := exists_ok_of_bind read
        exact settled named read
      · obtain ⟨named, _, read⟩ := exists_ok_of_bind read
        exact settled named read

/-- So are those that the value of a merge brings in. -/
theorem mergedOf_areRead : ∀ (node : Node) (found : List (Setting × Setting)),
    mergedOf node = .ok found → AreRead found
  | .mapping _ entries, found, read => by
    obtain ⟨parts, taken, rfl⟩ := exists_ok_of_map read
    obtain ⟨left, right⟩ := entriesOf_areRead entries parts taken
    exact left.append right
  | .sequence _ items, found, read => mergedItems_areRead items found read
  | .scalar _ _, found, read => by cases read

/-- And those that several mappings bring in. -/
theorem mergedItems_areRead : ∀ (nodes : List Node) (found : List (Setting × Setting)),
    mergedItems nodes = .ok found → AreRead found
  | [], found, read => by
    cases read
    exact List.forall_mem_nil _
  | .mapping _ entries :: rest, found, read => by
    rw [mergedItems] at read
    obtain ⟨front, taken, read⟩ := exists_ok_of_bind read
    obtain ⟨others, later, read⟩ := exists_ok_of_bind read
    cases read
    obtain ⟨left, right⟩ := entriesOf_areRead entries front taken
    exact (mergedItems_areRead rest others later).append (left.append right)
  | .sequence _ _ :: _, found, read => by cases read
  | .scalar _ _ :: _, found, read => by cases read

end

/-- Putting entries that are read into a mapping leaves a mapping, with values of nodes where the
    mapping had such values. -/
theorem AreRead.put_all {entries : List (Setting × Setting)} {table : Table}
    (areRead : AreRead entries) (mapping : table.IsMapping)
    (values : ∀ entry ∈ table, ∃ node, Node.value node = .ok entry.2) :
    (entries.foldl (fun table entry => Table.put entry.1 entry.2 table) table).IsMapping ∧
      ∀ entry ∈ entries.foldl (fun table entry => Table.put entry.1 entry.2 table) table,
        ∃ node, Node.value node = .ok entry.2 := by
  induction entries generalizing table with
  | nil => exact ⟨mapping, values⟩
  | cons first rest inductionHypothesis =>
    obtain ⟨⟨isKey, valued⟩, later⟩ := List.forall_mem_cons.mp areRead
    apply inductionHypothesis later (mapping.put isKey _)
    intro entry member
    rcases Table.mem_put member with same | before
    · exact same ▸ valued
    · exact values entry before

/-- A scalar gives no table. -/
theorem scalarValue_ne_table (tag : String) (text : List Char) (table : Table) :
    scalarValue tag text ≠ .ok (.table table) := by
  intro read
  unfold scalarValue at read
  split_ifs at read
  · cases read
  · cases read
  · unfold truthValue at read
    split at read <;> cases read
  · obtain ⟨size, _, same⟩ := exists_ok_of_map read
    cases same
  · obtain ⟨number, _, same⟩ := exists_ok_of_map read
    cases same
  · unfold timeValue at read
    split at read
    · cases read
    · dsimp only at read
      split at read
      · obtain ⟨day, _, same⟩ := exists_ok_of_map read
        cases same
      · obtain ⟨offset, _, read⟩ := exists_ok_of_bind read
        obtain ⟨day, _, read⟩ := exists_ok_of_bind read
        obtain ⟨clock, _, read⟩ := exists_ok_of_bind read
        cases read

/-- A table that a node gives is a mapping with values of nodes. -/
theorem Node.value_table {node : Node} {table : Table} (read : node.value = .ok (.table table)) :
    table.IsMapping ∧ ∀ entry ∈ table, ∃ other, Node.value other = .ok entry.2 := by
  cases node with
  | scalar tag text => exact absurd read (scalarValue_ne_table tag text table)
  | sequence tag items =>
    rw [Node.value] at read
    split at read
    · obtain ⟨values, _, same⟩ := exists_ok_of_map read
      cases same
    · cases read
  | mapping tag entries =>
    rw [Node.value] at read
    split at read
    · obtain ⟨found, taken, same⟩ := exists_ok_of_map read
      cases same
      obtain ⟨merged, own⟩ := entriesOf_areRead entries found taken
      exact (merged.append own).put_all .nil (List.forall_mem_nil _)
    · cases read

/-- A table that a text gives is a mapping, and so are the tables in it. -/
theorem read_table {text : List Char} {table : Table} (found : read text = .ok (.table table)) :
    table.NestsMappings := by
  obtain ⟨node, valued⟩ : ∃ node, Node.value node = .ok (.table table) := by
    unfold read at found
    split at found
    · cases found
    · cases found
    · split at found
      · cases found
      · cases found
      · exact ⟨_, found⟩
  obtain ⟨mapping, values⟩ := Node.value_table valued
  refine ⟨mapping, ?_⟩
  intro entry member entries same
  obtain ⟨other, given⟩ := values entry member
  exact (Node.value_table (same ▸ given)).1

end Yaml

/-- The entries of the configuration file are a mapping, and so are the tables in it. -/
theorem Config.fileEntries_nests {tree : FileTree} {path : String} {file : Table}
    (read : fileEntries tree path = .ok file) : file.NestsMappings := by
  have none : Table.NestsMappings [] := ⟨.nil, by simp⟩
  unfold fileEntries at read
  split at read
  · cases read
  · cases read
    exact none
  · obtain ⟨text, _, read⟩ := exists_ok_of_bind read
    obtain ⟨document, valued, read⟩ := exists_ok_of_bind read
    unfold entriesOfDocument at read
    split at read
    · cases read
      exact none
    · split at read
      · cases read
        cases found : Yaml.read text with
        | error cause =>
          rw [found] at valued
          cases valued
        | ok given =>
          rw [found] at valued
          cases valued
          exact Yaml.read_table found
      · cases read

end LintReview
