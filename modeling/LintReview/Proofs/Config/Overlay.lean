import LintReview.Config
import LintReview.Proofs.Config.Tables

/-!
# Laying a source over a configuration

A source is laid over a configuration entry by entry, and a section goes over the one that is
there. As the keys of a source are distinct, each section is touched once, so that what it
becomes can be made out from the start (`settle`). Laying the source over the configuration is
then laying single entries over a table (`overlay_eq`), and the value of each key can be read off
(`find?_section`, `find?_other`).

A source that is laid over a second time finds its values in place (`overlay_again`), and nulls
change nothing (`overlay_withoutNulls`).
-/

namespace LintReview.Config

open Table

/-! ## Sources -/

/-- The entries of a section, none if it is absent or no table. -/
def sectionIn (table : Table) (key : Setting) : Table :=
  match find? table key with
  | some (.table entries) => entries
  | _ => []

/-- Each section is null or a table without sections of its own. -/
def PlainSections (source : Table) : Prop :=
  ∀ entry ∈ source, isSection entry.1 = true → entry.2 = .null ∨
    ∃ entries, entry.2 = .table entries ∧ ∀ inner ∈ entries, isSection inner.1 = false

/-- All sections are there, as tables. -/
def HasSections (target : Table) : Prop :=
  ∀ key, isSection key = true → ∃ entries, find? target key = some (.table entries)

theorem isSection_congr {first second : Setting} (same : first.sameKey second = true) :
    isSection first = isSection second := by
  cases first <;> cases second <;> simp_all [Setting.sameKey, isSection]

theorem sectionIn_congr {first second : Setting} (table : Table)
    (same : first.sameKey second = true) : sectionIn table first = sectionIn table second := by
  rw [sectionIn, sectionIn, find?_congr table same]

theorem sectionIn_of_find? {table entries : Table} {key : Setting}
    (found : find? table key = some (.table entries)) : sectionIn table key = entries := by
  rw [sectionIn, found]

/-! ## What is left to lay over -/

/-- What the value of an entry becomes if it is laid over a table: a section goes over the one
    that is there. -/
def settled (target : Table) (key value : Setting) : Setting :=
  match value with
  | .table entries => if isSection key then .table (lay (sectionIn target key) entries) else value
  | _ => value

/-- A source whose sections are what they become. -/
def settle (target source : Table) : Table :=
  source.map fun entry => (entry.1, settled target entry.1 entry.2)

theorem settled_other (target : Table) {key : Setting} (other : isSection key = false)
    (value : Setting) : settled target key value = value := by
  cases value <;> simp [settled, other]

theorem settled_congr {target : Table} {first second : Setting}
    (same : first.sameKey second = true) (value : Setting) :
    settled target first value = settled target second value := by
  unfold settled
  rw [isSection_congr same, sectionIn_congr target same]

@[simp]
theorem isGiven_settled (target : Table) (key value : Setting) :
    (settled target key value).isGiven = value.isGiven := by
  cases value <;> try rfl
  rw [settled]
  split <;> rfl

theorem keys_settle (target source : Table) :
    (settle target source).map Prod.fst = source.map Prod.fst := by
  rw [settle, List.map_map]
  rfl

theorem settle_mapping {source : Table} (mapping : source.IsMapping) (target : Table) :
    (settle target source).IsMapping :=
  .of_keys (keys_settle target source) mapping.keys mapping.distinct

/-- A key has the value that it becomes. -/
theorem value?_settle (target source : Table) (key : Setting) :
    value? (settle target source) key = (value? source key).map (settled target key) := by
  induction source with
  | nil => rfl
  | cons entry rest inductionHypothesis =>
    rw [settle, List.map_cons, value?_cons, value?_cons]
    by_cases same : entry.1.sameKey key = true
    · rw [if_pos same, if_pos same, settled_congr same, Option.filter_some, Option.filter_some,
        isGiven_settled]
      split <;> rfl
    · rw [if_neg same, if_neg same]
      exact inductionHypothesis

/-! ## Laying a source over a configuration -/

section Steps

variable {target : Table} {key value : Setting} {rest : List (Setting × Setting)}

/-- A null is passed over. -/
theorem overlay_skip (absent : value.isGiven = false) :
    overlay (.table target) ((key, value) :: rest) = overlay (.table target) rest := by
  cases value with
  | null => rw [overlay]
  | _ => cases absent

/-- An entry that is no section is put whole. -/
theorem overlay_whole (given : value.isGiven = true) (other : isSection key = false) :
    overlay (.table target) ((key, value) :: rest) =
      overlay (.table (put key value target)) rest := by
  cases value with
  | null => cases given
  | table entries =>
    rw [overlay, if_neg (by simp [other])]
    rfl
  | _ =>
    rw [overlay]
    · rfl
    · simp
    · simp

/-- Entries of which none is a section are laid over as they are. -/
theorem overlay_plain {entries : Table} (plain : ∀ entry ∈ entries, isSection entry.1 = false)
    (target : Table) : overlay (.table target) entries = .ok (.table (lay target entries)) := by
  induction entries generalizing target with
  | nil => rw [overlay, lay]
  | cons entry rest inductionHypothesis =>
    obtain ⟨other, others⟩ := List.forall_mem_cons.mp plain
    rw [lay]
    cases given : entry.2.isGiven with
    | false =>
      rw [if_neg Bool.false_ne_true, overlay_skip given]
      exact inductionHypothesis others target
    | true =>
      rw [if_pos rfl, overlay_whole given other]
      exact inductionHypothesis others _

/-- A section goes over the one that is there. -/
theorem overlay_section {entries : Table} (isSection : isSection key = true)
    (plain : ∀ entry ∈ entries, Config.isSection entry.1 = false) (sections : HasSections target) :
    overlay (.table target) ((key, .table entries) :: rest) =
      overlay (.table (put key (settled target key (.table entries)) target)) rest := by
  obtain ⟨known, found⟩ := sections key isSection
  have there : sectionOf (.table target) key = .ok (.table known) := by
    rw [sectionOf, found]
  rw [overlay, if_pos isSection, there, settled, if_pos isSection, sectionIn_of_find? found]
  change (overlay (.table known) entries >>= fun changed => _) = _
  rw [overlay_plain plain]
  rfl

end Steps

/-- A key that is not put keeps its section. -/
theorem sectionIn_put {key other : Setting} (different : key.sameKey other = false)
    (value : Setting) (target : Table) :
    sectionIn (put key value target) other = sectionIn target other := by
  rw [sectionIn, find?_put, if_neg (by simp [different])]
  rfl

/-- What other entries become does not depend on an entry that was put. -/
theorem settle_put {key : Setting} {rest : Table}
    (different : ∀ entry ∈ rest, key.sameKey entry.1 = false) (value : Setting) (target : Table) :
    settle (put key value target) rest = settle target rest := by
  apply List.map_congr_left
  intro entry member
  unfold settled
  rw [sectionIn_put (different entry member)]

/-- A table with sections keeps them when a settled entry is put. -/
theorem HasSections.put_settled {target : Table} {key value : Setting}
    (sections : HasSections target) (given : value.isGiven = true)
    (plain : isSection key = true → value = .null ∨ ∃ entries, value = .table entries ∧
      ∀ inner ∈ entries, isSection inner.1 = false) :
    HasSections (put key (settled target key value) target) := by
  intro asked isAsked
  rw [find?_put]
  split
  · next same =>
    have isSection := (isSection_congr same).trans isAsked
    rcases plain isSection with rfl | ⟨entries, rfl, -⟩
    · cases given
    · exact ⟨_, by rw [settled, if_pos isSection]⟩
  · exact sections asked isAsked

/-- A configuration with a source laid over it. -/
def overlaid (target source : Table) : Table := lay target (settle target source)

/-- A source is laid over a configuration by laying over it what the source becomes. -/
theorem overlay_eq {target source : Table} (mapping : source.IsMapping)
    (plain : PlainSections source) (sections : HasSections target) :
    overlay (.table target) source = .ok (.table (overlaid target source)) := by
  induction source generalizing target with
  | nil =>
    rw [overlay]
    rfl
  | cons entry rest inductionHypothesis =>
    obtain ⟨key, value⟩ := entry
    obtain ⟨here, others⟩ := List.forall_mem_cons.mp plain
    have later {changed : Table} (kept : HasSections changed) :
        overlay (.table changed) rest = .ok (.table (overlaid changed rest)) :=
      inductionHypothesis mapping.tail others kept
    rw [overlaid, settle, List.map_cons, lay, isGiven_settled]
    cases given : value.isGiven with
    | false =>
      rw [if_neg Bool.false_ne_true, overlay_skip given]
      exact later sections
    | true =>
      -- no later entry has this key, so putting it changes nothing for what they become
      have different : ∀ entry ∈ rest, key.sameKey entry.1 = false := fun entry member =>
        List.rel_of_pairwise_cons mapping.distinct (List.mem_map_of_mem member)
      have put : overlay (.table target) ((key, value) :: rest) =
          overlay (.table (put key (settled target key value) target)) rest := by
        cases isSection : isSection key with
        | false => rw [overlay_whole given isSection, settled_other target isSection]
        | true =>
          rcases here isSection with rfl | ⟨entries, rfl, inner⟩
          · cases given
          · exact overlay_section isSection inner sections
      rw [if_pos rfl, put, later (sections.put_settled given here), overlaid,
        settle_put different]
      rfl

/-! ## Values afterwards -/

/-- A mapping of which each section is null or a table, without sections of its own, and a
    mapping as well. -/
structure IsSource (source : Table) : Prop where
  nests : source.NestsMappings
  plain : PlainSections source

/-- A configuration is a mapping with all sections. -/
structure IsComplete (config : Table) : Prop where
  nests : config.NestsMappings
  sections : HasSections config

section Overlaid

variable {target source : Table} {key : Setting}

/-- The section of a source is what is given for it. -/
theorem IsSource.value?_section (isSource : IsSource source) (isSection : isSection key = true) :
    value? source key = none ∧ sectionIn source key = [] ∨
      value? source key = some (.table (sectionIn source key)) := by
  cases found : find? source key with
  | none => exact .inl ⟨by rw [value?, found, Option.filter_none], by rw [sectionIn, found]⟩
  | some value =>
    obtain ⟨known, member, same⟩ := mem_of_find? found
    rcases isSource.plain _ member ((isSection_congr same).trans isSection) with
      null | ⟨entries, table, -⟩
    · obtain rfl : value = .null := null
      exact .inl ⟨by rw [value?, found]; rfl, by rw [sectionIn, found]⟩
    · obtain rfl : value = .table entries := table
      exact .inr (by rw [value?, found, sectionIn_of_find? found]; rfl)

/-- A key has what the value becomes that the source gives it, or else the value it had. -/
theorem find?_overlaid (mapping : source.IsMapping) (target : Table) (key : Setting) :
    find? (overlaid target source) key =
      ((value? source key).map (settled target key)).or (find? target key) := by
  rw [overlaid, find?_lay (settle_mapping mapping target), value?_settle]

/-- A section becomes the one that is there with that of the source laid over it. -/
theorem find?_section (isSource : IsSource source) (sections : HasSections target)
    (isSection : isSection key = true) :
    find? (overlaid target source) key =
      some (.table (lay (sectionIn target key) (sectionIn source key))) := by
  rw [find?_overlaid isSource.nests.mapping]
  rcases isSource.value?_section isSection with ⟨none, empty⟩ | given
  · obtain ⟨entries, found⟩ := sections key isSection
    rw [none, empty, Option.map_none, Option.none_or, lay, found, sectionIn_of_find? found]
  · rw [given, Option.map_some, Option.some_or, settled, if_pos isSection]

/-- Any other key has the value that the source gives it, or else the one that it had. -/
theorem find?_other (isSource : IsSource source) (other : isSection key = false) :
    find? (overlaid target source) key =
      (value? source key).or (find? target key) := by
  have kept : settled target key = id := funext (settled_other target other)
  rw [find?_overlaid isSource.nests.mapping, kept, Option.map_id]
  rfl

/-- The section of a mapping that nests mappings is a mapping. -/
theorem sectionIn_mapping (nests : source.NestsMappings) (key : Setting) :
    (sectionIn source key).IsMapping := by
  unfold sectionIn
  split
  · next entries found =>
    obtain ⟨known, member, -⟩ := mem_of_find? found
    exact nests.inner _ member entries rfl
  · exact .nil

/-- What an entry of a source becomes is a mapping, if it is a table. -/
theorem settled_nests (complete : target.NestsMappings) (nests : source.NestsMappings)
    {entry : Setting × Setting} (member : entry ∈ source) {entries : Table}
    (table : settled target entry.1 entry.2 = .table entries) : entries.IsMapping := by
  obtain ⟨key, value⟩ := entry
  cases value with
  | table inner =>
    have mapping := nests.inner _ member inner rfl
    rw [settled] at table
    split at table
    · obtain rfl := Setting.table.inj table
      exact (sectionIn_mapping complete key).lay fun entry inside =>
        mapping.keys _ (List.mem_map_of_mem inside)
    · obtain rfl := Setting.table.inj table
      exact mapping
  | _ => cases table

/-- A configuration with a source laid over it is a configuration. -/
theorem IsComplete.overlaid (complete : IsComplete target) (isSource : IsSource source) :
    IsComplete (overlaid target source) := by
  have mapping := settle_mapping isSource.nests.mapping target
  refine ⟨⟨complete.nests.mapping.lay fun entry member =>
    mapping.keys _ (List.mem_map_of_mem member), ?_⟩,
    fun key isSection => ⟨_, find?_section isSource complete.sections isSection⟩⟩
  intro entry member entries table
  rcases mem_lay member with old | ⟨laid, inside, same⟩
  · exact complete.nests.inner entry old entries table
  · obtain ⟨other, given, rfl⟩ := List.mem_map.mp inside
    exact settled_nests complete.nests isSource.nests given (same.symm.trans table)

/-- What a section becomes a second time is what it has become. -/
theorem settled_overlaid (complete : IsComplete target) (isSource : IsSource source)
    {value : Setting} (member : (key, value) ∈ source) (given : value.isGiven = true) :
    settled (overlaid target source) key value = settled target key value := by
  cases isSection : isSection key with
  | false => rw [settled_other _ isSection, settled_other _ isSection]
  | true =>
    rcases isSource.plain _ member isSection with null | ⟨entries, table, -⟩
    · obtain rfl : value = .null := null
      cases given
    · obtain rfl : value = .table entries := table
      have own : sectionIn source key = entries :=
        sectionIn_of_find? (isSource.nests.mapping.find?_of_mem member)
      rw [settled, settled, if_pos isSection, if_pos isSection,
        sectionIn_of_find? (find?_section isSource complete.sections isSection), own,
        lay_lay (isSource.nests.inner _ member entries rfl)]

/-- A source that is laid over a second time changes nothing more. -/
theorem overlay_again (complete : IsComplete target) (isSource : IsSource source) :
    overlay (.table (overlaid target source)) source =
      .ok (.table (overlaid target source)) := by
  rw [overlay_eq isSource.nests.mapping isSource.plain (complete.overlaid isSource).sections]
  congr 2
  apply lay_of_agrees
  intro entry member given
  obtain ⟨⟨key, value⟩, inside, rfl⟩ := List.mem_map.mp member
  rw [isGiven_settled] at given
  rw [find?_overlaid isSource.nests.mapping, isSource.nests.mapping.value?_of_mem inside given,
    Option.map_some, Option.some_or, settled_overlaid complete isSource inside given]

end Overlaid

/-! ## Nulls -/

/-- A source without the entries that are null, in its sections too. -/
def withoutNulls (source : Table) : Table :=
  source.filterMap fun (key, value) =>
    match value with
    | .null => none
    | .table entries =>
      some (key, .table (if isSection key then entries.filter (·.2.isGiven) else entries))
    | _ => some (key, value)

/-- Entries that begin the same, whatever follows them, change the same. -/
theorem overlay_cons_congr (target : Setting) (entry : Setting × Setting) {rest others : Table}
    (same : ∀ result, overlay result rest = overlay result others) :
    overlay target (entry :: rest) = overlay target (entry :: others) := by
  obtain ⟨key, value⟩ := entry
  cases value <;> simp only [overlay, same]

/-- Without its nulls a section changes the same. -/
theorem overlay_filter (target : Setting) (entries : Table) :
    overlay target (entries.filter fun entry => entry.2.isGiven) = overlay target entries := by
  induction entries generalizing target with
  | nil => rfl
  | cons entry rest inductionHypothesis =>
    rw [List.filter_cons]
    split
    · exact overlay_cons_congr target entry inductionHypothesis
    · next absent =>
      obtain ⟨key, value⟩ := entry
      cases value with
      | null => rw [overlay, inductionHypothesis]
      | _ => cases absent rfl

/-- Without its nulls a source changes the same. -/
theorem overlay_withoutNulls (target : Setting) (source : Table) :
    overlay target (withoutNulls source) = overlay target source := by
  induction source generalizing target with
  | nil => rfl
  | cons entry rest inductionHypothesis =>
    obtain ⟨key, value⟩ := entry
    cases value with
    | null =>
      rw [overlay]
      exact inductionHypothesis target
    | table entries =>
      change overlay target ((key, .table _) :: withoutNulls rest) = _
      rw [overlay_cons_congr target _ inductionHypothesis, overlay, overlay]
      split
      · simp only [overlay_filter]
      · rfl
    | _ => exact overlay_cons_congr target _ inductionHypothesis

/-- Without the nulls in its sources the configuration is the same. -/
theorem layered_withoutNulls (file overrides : Table) :
    layered (withoutNulls file) (withoutNulls overrides) = layered file overrides := by
  simp only [layered, overlay_withoutNulls]

end LintReview.Config
