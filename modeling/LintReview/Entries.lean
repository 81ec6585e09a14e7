/-!
# Entries by key

A list of entries keeps each key in the place where it first came. Putting a value under
a known key replaces the old value; under a new one it adds an entry at the end.
-/

namespace LintReview

variable {κ ν : Type} [DecidableEq κ]

/-- The entries with a value under a key. -/
def putEntry (key : κ) (value : ν) : List (κ × ν) → List (κ × ν)
  | [] => [(key, value)]
  | (known, old) :: rest =>
    if known = key then (known, value) :: rest else (known, old) :: putEntry key value rest

/-- Looking up goes on after an entry under another key. -/
theorem lookup_cons_eq (sought known : κ) (value : ν) (rest : List (κ × ν)) :
    ((known, value) :: rest).lookup sought =
      if sought = known then some value else rest.lookup sought := by
  by_cases same : sought = known
  · simp [same]
  · have differs : (sought == known) = false := beq_false_of_ne same
    simp [List.lookup_cons, differs, same]

/-- The key has the new value, and every other key what it had. -/
theorem lookup_putEntry (key sought : κ) (value : ν) (entries : List (κ × ν)) :
    (putEntry key value entries).lookup sought =
      if sought = key then some value else entries.lookup sought := by
  induction entries with
  | nil => rw [putEntry, lookup_cons_eq]
  | cons entry rest inductionHypothesis =>
    obtain ⟨known, old⟩ := entry
    unfold putEntry
    by_cases same : known = key
    · subst same
      rw [if_pos rfl, lookup_cons_eq, lookup_cons_eq]
      split <;> rfl
    · rw [if_neg same, lookup_cons_eq, lookup_cons_eq, inductionHypothesis]
      by_cases found : sought = known
      · have other : sought ≠ key := fun equal => same (found ▸ equal)
        rw [if_pos found, if_neg other, if_pos found]
      · rw [if_neg found, if_neg found]

/-- A new key comes last, and a known one adds none. -/
theorem keys_putEntry (key : κ) (value : ν) (entries : List (κ × ν)) :
    (putEntry key value entries).map Prod.fst =
      if key ∈ entries.map Prod.fst then entries.map Prod.fst
      else entries.map Prod.fst ++ [key] := by
  induction entries with
  | nil => simp [putEntry]
  | cons entry rest inductionHypothesis =>
    obtain ⟨known, old⟩ := entry
    unfold putEntry
    by_cases same : known = key
    · simp [same]
    · rw [if_neg same, List.map_cons, List.map_cons, inductionHypothesis]
      by_cases later : key ∈ rest.map Prod.fst
      · rw [if_pos later, if_pos (List.mem_cons_of_mem _ later)]
      · have absent : key ∉ known :: rest.map Prod.fst := by
          simp only [List.mem_cons, not_or]
          exact ⟨fun equal => same equal.symm, later⟩
        rw [if_neg later, if_neg absent, List.cons_append]

/-- Every key is the new one or was there before. -/
theorem mem_keys_putEntry {key sought : κ} {value : ν} {entries : List (κ × ν)}
    (member : sought ∈ (putEntry key value entries).map Prod.fst) :
    sought = key ∨ sought ∈ entries.map Prod.fst := by
  rw [keys_putEntry] at member
  split at member
  · exact Or.inr member
  · rcases List.mem_append.mp member with before | last
    · exact Or.inr before
    · exact Or.inl (List.mem_singleton.mp last)

/-- An entry under a new key is added at the end. -/
theorem putEntry_new {key : κ} (value : ν) {entries : List (κ × ν)}
    (absent : key ∉ entries.map Prod.fst) :
    putEntry key value entries = entries ++ [(key, value)] := by
  induction entries with
  | nil => rfl
  | cons entry rest inductionHypothesis =>
    obtain ⟨known, old⟩ := entry
    rw [List.map_cons, List.mem_cons, not_or] at absent
    have other : known ≠ key := fun same => absent.1 same.symm
    rw [putEntry, if_neg other, inductionHypothesis absent.2, List.cons_append]

end LintReview
