import LintReview.Proofs.Config.Keys

/-!
# Tables that are laid over others

A table is a mapping if its keys are keys at all and no two of them are the same. Laying entries
over a table puts those that are given, and leaves out the nulls (`Table.lay`). Afterwards a key
has the value that the entries give it, or else the one that it had (`find?_lay`).

Where a table already has all values that are given, nothing changes, so entries that are laid
over a second time change nothing more (`lay_lay`).
-/

namespace LintReview

/-- The value is not null. -/
def Setting.isGiven : Setting → Bool
  | .null => false
  | _ => true

namespace Table

/-! ## Finding and putting -/

theorem find?_cons (entry : Setting × Setting) (rest : Table) (key : Setting) :
    find? (entry :: rest) key = if entry.1.sameKey key then some entry.2 else find? rest key := by
  rw [find?, List.find?_cons]
  cases entry.1.sameKey key <;> rfl

/-- A value that is found belongs to the same key. -/
theorem mem_of_find? {table : Table} {key value : Setting} (found : find? table key = some value) :
    ∃ known, (known, value) ∈ table ∧ known.sameKey key = true := by
  obtain ⟨⟨known, other⟩, first, rfl⟩ := Option.map_eq_some_iff.mp found
  exact ⟨known, List.mem_of_find?_eq_some first, by simpa using List.find?_some first⟩

/-- Keys that are the same have the same value. -/
theorem find?_congr {first second : Setting} (table : Table)
    (same : first.sameKey second = true) : find? table first = find? table second := by
  induction table with
  | nil => rfl
  | cons entry rest inductionHypothesis =>
    rw [find?_cons, find?_cons, Setting.sameKey_comm, Setting.sameKey_congr same,
      Setting.sameKey_comm second, inductionHypothesis]

/-- A key that was put has the new value, and any other the one it had. -/
theorem find?_put (key value asked : Setting) (table : Table) :
    find? (put key value table) asked =
      if key.sameKey asked then some value else find? table asked := by
  induction table with
  | nil => exact find?_cons (key, value) [] asked
  | cons entry rest inductionHypothesis =>
    obtain ⟨known, old⟩ := entry
    by_cases same : known.sameKey key = true
    · rw [put, if_pos same, find?_cons, find?_cons, Setting.sameKey_congr same]
      split <;> rfl
    · rw [put, if_neg same, find?_cons, find?_cons, inductionHypothesis]
      by_cases here : known.sameKey asked = true
      · -- an entry in front of the one that is put has another key than the one asked for
        have other : key.sameKey asked ≠ true := by
          intro also
          rw [Setting.sameKey_congr here, Setting.sameKey_comm] at same
          exact same also
        rw [if_pos here, if_pos here, if_neg other]
      · rw [if_neg here, if_neg here]

/-- Putting the value that a key has changes nothing. -/
theorem put_of_find? {key value : Setting} {table : Table}
    (found : find? table key = some value) : put key value table = table := by
  induction table with
  | nil => cases found
  | cons entry rest inductionHypothesis =>
    obtain ⟨known, old⟩ := entry
    rw [find?_cons] at found
    by_cases same : known.sameKey key = true
    · rw [if_pos same] at found
      obtain rfl : old = value := Option.some.inj found
      exact if_pos same
    · rw [if_neg same] at found
      rw [put, if_neg same, inductionHypothesis found]

/-- An entry of a table into which a value was put has this value or is one of those before. -/
theorem mem_put {key value : Setting} {table : Table} {entry : Setting × Setting}
    (member : entry ∈ put key value table) : entry.2 = value ∨ entry ∈ table := by
  induction table with
  | nil =>
    obtain rfl := List.mem_singleton.mp member
    exact .inl rfl
  | cons first rest inductionHypothesis =>
    obtain ⟨known, old⟩ := first
    rw [put] at member
    split at member
    · rcases List.mem_cons.mp member with rfl | later
      · exact .inl rfl
      · exact .inr (List.mem_cons_of_mem _ later)
    · rcases List.mem_cons.mp member with rfl | later
      · exact .inr List.mem_cons_self
      · exact (inductionHypothesis later).imp_right (List.mem_cons_of_mem _)

/-! ## Mappings -/

/-- The keys of a table are keys, and no two are the same. -/
structure IsMapping (table : Table) : Prop where
  keys : ∀ key ∈ table.map Prod.fst, key.IsKey
  distinct : (table.map Prod.fst).Pairwise fun first second => first.sameKey second = false

instance (table : Table) : Decidable table.IsMapping :=
  decidable_of_iff ((∀ key ∈ table.map Prod.fst, key.IsKey) ∧
      (table.map Prod.fst).Pairwise fun first second => first.sameKey second = false)
    ⟨fun both => ⟨both.1, both.2⟩, fun mapping => ⟨mapping.keys, mapping.distinct⟩⟩

theorem IsMapping.nil : IsMapping [] := ⟨by simp, .nil⟩

/-- Whether a table is a mapping is seen from its keys. -/
theorem IsMapping.of_keys {table : Table} {keys : List Setting}
    (same : table.map Prod.fst = keys) (areKeys : ∀ key ∈ keys, key.IsKey)
    (distinct : keys.Pairwise fun first second => first.sameKey second = false) :
    table.IsMapping := by
  rw [← same] at areKeys distinct
  exact ⟨areKeys, distinct⟩

theorem IsMapping.head {entry : Setting × Setting} {rest : Table}
    (mapping : IsMapping (entry :: rest)) : entry.1.IsKey :=
  mapping.keys _ List.mem_cons_self

theorem IsMapping.tail {entry : Setting × Setting} {rest : Table}
    (mapping : IsMapping (entry :: rest)) : IsMapping rest :=
  ⟨fun key member => mapping.keys key (List.mem_cons_of_mem _ member), mapping.distinct.tail⟩

/-- The first key of a mapping is not found in the rest. -/
theorem IsMapping.find?_tail {entry : Setting × Setting} {rest : Table} {key : Setting}
    (mapping : IsMapping (entry :: rest)) (same : entry.1.sameKey key = true) :
    find? rest key = none := by
  by_contra found
  obtain ⟨value, found⟩ := Option.ne_none_iff_exists'.mp found
  obtain ⟨known, member, also⟩ := mem_of_find? found
  have other := List.rel_of_pairwise_cons mapping.distinct (List.mem_map_of_mem member)
  rw [Setting.sameKey_congr same, Setting.sameKey_comm, also] at other
  cases other

/-- In a mapping each key has the value of its entry. -/
theorem IsMapping.find?_of_mem {table : Table} {key value : Setting} (mapping : table.IsMapping)
    (member : (key, value) ∈ table) : find? table key = some value := by
  induction table with
  | nil => cases member
  | cons entry rest inductionHypothesis =>
    rw [find?_cons]
    rcases List.mem_cons.mp member with rfl | later
    · exact if_pos mapping.head
    · have other := List.rel_of_pairwise_cons mapping.distinct (List.mem_map_of_mem later)
      rw [if_neg (Bool.not_eq_true _ ▸ other), inductionHypothesis mapping.tail later]

/-- Putting a value keeps the keys, unless the key is new. -/
theorem keys_put (key value : Setting) (table : Table) :
    (put key value table).map Prod.fst = table.map Prod.fst ∨
      (∀ known ∈ table.map Prod.fst, known.sameKey key = false) ∧
        (put key value table).map Prod.fst = table.map Prod.fst ++ [key] := by
  induction table with
  | nil => exact .inr ⟨by simp, rfl⟩
  | cons entry rest inductionHypothesis =>
    obtain ⟨known, old⟩ := entry
    by_cases same : known.sameKey key = true
    · exact .inl (by rw [put, if_pos same]; rfl)
    · rw [put, if_neg same]
      rcases inductionHypothesis with kept | ⟨others, added⟩
      · exact .inl (by simp [kept])
      · refine .inr ⟨?_, by simp [added]⟩
        simpa [same] using others

theorem IsMapping.put {key : Setting} {table : Table} (mapping : table.IsMapping)
    (isKey : key.IsKey) (value : Setting) : (put key value table).IsMapping := by
  rcases keys_put key value table with kept | ⟨others, added⟩
  · exact .of_keys kept mapping.keys mapping.distinct
  · apply IsMapping.of_keys added
    · rw [List.forall_mem_append]
      exact ⟨mapping.keys, by simpa using isKey⟩
    · rw [List.pairwise_append]
      exact ⟨mapping.distinct, List.pairwise_singleton _ _, by simpa using others⟩

/-- A mapping whose own tables are mappings too. -/
structure NestsMappings (table : Table) : Prop where
  mapping : table.IsMapping
  inner : ∀ entry ∈ table, ∀ entries, entry.2 = .table entries → IsMapping entries

/-! ## Laying entries over a table -/

/-- The value of a key, if it is given and not null. -/
def value? (table : Table) (key : Setting) : Option Setting :=
  (find? table key).filter Setting.isGiven

/-- A table with the entries that are given laid over it, one after the other. -/
def lay (target : Table) : List (Setting × Setting) → Table
  | [] => target
  | (key, value) :: rest => lay (if value.isGiven then put key value target else target) rest

theorem value?_cons (entry : Setting × Setting) (rest : Table) (key : Setting) :
    value? (entry :: rest) key =
      if entry.1.sameKey key then (some entry.2).filter Setting.isGiven else value? rest key := by
  rw [value?, find?_cons]
  split <;> rfl

/-- What is given in a mapping is the value of its key. -/
theorem IsMapping.value?_of_mem {table : Table} {key value : Setting} (mapping : table.IsMapping)
    (member : (key, value) ∈ table) (given : value.isGiven = true) :
    value? table key = some value := by
  rw [value?, mapping.find?_of_mem member, Option.filter_some, if_pos given]

/-- Afterwards each key has the value that the entries give it, or else the one that it had. -/
theorem find?_lay {entries : Table} (mapping : entries.IsMapping) (target : Table)
    (key : Setting) :
    find? (lay target entries) key = (value? entries key).or (find? target key) := by
  induction entries generalizing target with
  | nil => rfl
  | cons entry rest inductionHypothesis =>
    obtain ⟨known, value⟩ := entry
    rw [lay, inductionHypothesis mapping.tail, value?_cons]
    by_cases same : known.sameKey key = true
    · have absent : value? rest key = none := by
        rw [value?, mapping.find?_tail same, Option.filter_none]
      rw [if_pos same, absent, Option.none_or]
      cases given : value.isGiven with
      | true => rw [if_pos rfl, find?_put, if_pos same, Option.filter_some, if_pos given]; rfl
      | false =>
        rw [if_neg Bool.false_ne_true, Option.filter_some, if_neg (by simp [given]),
          Option.none_or]
    · rw [if_neg same]
      split
      · rw [find?_put, if_neg same]
      · rfl

/-- What is laid over a mapping leaves a mapping. -/
theorem IsMapping.lay {target : Table} {entries : Table} (mapping : target.IsMapping)
    (keys : ∀ entry ∈ entries, entry.1.IsKey) : (lay target entries).IsMapping := by
  induction entries generalizing target with
  | nil => exact mapping
  | cons entry rest inductionHypothesis =>
    obtain ⟨isKey, others⟩ := List.forall_mem_cons.mp keys
    apply inductionHypothesis _ others
    split
    · exact mapping.put isKey _
    · exact mapping

/-- An entry of a table over which entries were laid is an old one or has a value of theirs. -/
theorem mem_lay {target entries : Table} {entry : Setting × Setting}
    (member : entry ∈ lay target entries) :
    entry ∈ target ∨ ∃ laid ∈ entries, entry.2 = laid.2 := by
  induction entries generalizing target with
  | nil => exact .inl member
  | cons first rest inductionHypothesis =>
    rcases inductionHypothesis member with before | ⟨laid, inside, same⟩
    · split at before
      · rcases mem_put before with here | old
        · exact .inr ⟨first, List.mem_cons_self, here⟩
        · exact .inl old
      · exact .inl before
    · exact .inr ⟨laid, List.mem_cons_of_mem _ inside, same⟩

/-- A table that has all values that are given stays as it is. -/
theorem lay_of_agrees {target entries : Table}
    (agrees : ∀ entry ∈ entries, entry.2.isGiven = true → find? target entry.1 = some entry.2) :
    lay target entries = target := by
  induction entries with
  | nil => rfl
  | cons entry rest inductionHypothesis =>
    obtain ⟨here, later⟩ := List.forall_mem_cons.mp agrees
    rw [lay]
    split
    · next given => rw [put_of_find? (here given), inductionHypothesis later]
    · exact inductionHypothesis later

/-- Laying a mapping over a table a second time changes nothing more. -/
theorem lay_lay {target entries : Table} (mapping : entries.IsMapping) :
    lay (lay target entries) entries = lay target entries := by
  apply lay_of_agrees
  intro entry member given
  rw [find?_lay mapping, mapping.value?_of_mem member given, Option.some_or]

/-- The first value that is given for a key in one of several tables. -/
def firstGiven (key : Setting) (tables : List Table) : Option Setting :=
  tables.findSome? fun table => table.value? key

@[simp]
theorem firstGiven_nil (key : Setting) : firstGiven key [] = none := rfl

@[simp]
theorem firstGiven_cons (key : Setting) (table : Table) (rest : List Table) :
    firstGiven key (table :: rest) = (value? table key).or (firstGiven key rest) := by
  rw [firstGiven, List.findSome?_cons]
  cases value? table key <;> rfl

end Table

end LintReview
