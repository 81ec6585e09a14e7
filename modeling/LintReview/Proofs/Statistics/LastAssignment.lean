import LintReview.Proofs.Statistics.Forms
import LintReview.Proofs.Text.Lines

/-!
# The last assignment counts

Every rule is tried on every line, line by line and in the order of the rules. A counter ends
with the number that the last of these tries assigns to it (`Last`), or with zero if none does.
So where error output is put together from two texts at a line break, a counter has the value that
it has in the second, unless nothing is assigned to it there (`ofErrorOutput_append`).
-/

namespace LintReview.Statistics

/-- A rule that is tried on a line. -/
structure Try where
  line : List Char
  rule : Rule

/-- The tries for lines, in their order. -/
def triesOf (lines : List (List Char)) : List Try :=
  lines.flatMap fun line => rules.map fun rule => ⟨line, rule⟩

/-- The tries for error output, in their order. -/
def tries (output : String) : List Try := triesOf (Text.lines output.toList)

/-- The rule has digits in the line for the counter. -/
def Try.Assigns (attempt : Try) (counter : Counter) (digits : List Char) : Prop :=
  ∃ numbers, attempt.rule.Captures attempt.line numbers ∧
    (counter, digits) ∈ attempt.rule.counters.zip numbers

/-- The digits are those that the last try with any for the counter has for it. -/
def Last (attempts : List Try) (counter : Counter) (digits : List Char) : Prop :=
  ∃ before attempt after, attempts = before ++ attempt :: after ∧ attempt.Assigns counter digits ∧
    ∀ later ∈ after, ∀ others, ¬ later.Assigns counter others

/-- A list with some item of a kind is cut at the last one. -/
theorem exists_last {α : Type} {kind : α → Prop} {items : List α}
    (some : ∃ item ∈ items, kind item) :
    ∃ before item after, items = before ++ item :: after ∧ kind item ∧
      ∀ later ∈ after, ¬ kind later := by
  induction items with
  | nil =>
    obtain ⟨item, member, -⟩ := some
    cases member
  | cons first rest inductionHypothesis =>
    by_cases inRest : ∃ item ∈ rest, kind item
    · obtain ⟨before, item, after, rfl, held, last⟩ := inductionHypothesis inRest
      exact ⟨first :: before, item, after, rfl, held, last⟩
    · have held : kind first := by
        rcases (List.exists_mem_cons_iff _ _ _).mp some with here | later
        · exact here
        · exact absurd later inRest
      exact ⟨[], first, rest, rfl, held, fun later member kept => inRest ⟨later, member, kept⟩⟩

/-- What a try assigns, one after the other. -/
def Try.entries (attempt : Try) : List (Counter × List Char) :=
  attempt.rule.counters.zip ((attempt.rule.find? attempt.line).getD [])

/-- A try assigns what its rule has in the line. -/
theorem Try.mem_entries_iff {attempt : Try} (known : attempt.rule ∈ rules) {counter : Counter}
    {digits : List Char} :
    (counter, digits) ∈ attempt.entries ↔ attempt.Assigns counter digits := by
  rw [entries, Assigns]
  constructor
  · intro member
    cases found : attempt.rule.find? attempt.line with
    | none =>
      rw [found, Option.getD_none, List.zip_nil_right] at member
      cases member
    | some numbers =>
      rw [found, Option.getD_some] at member
      exact ⟨numbers, (find?_iff known).mp found, member⟩
  · rintro ⟨numbers, captures, member⟩
    rw [(find?_iff known).mpr captures]
    exact member

/-- No rule has two numbers for one counter. -/
theorem nodup_counters : ∀ rule ∈ rules, rule.counters.Nodup := by decide

/-- What a try assigns to a counter is not replaced in the same try. -/
theorem Try.entries_split {attempt : Try} (known : attempt.rule ∈ rules) {counter : Counter}
    {digits : List Char} (assigns : attempt.Assigns counter digits) :
    ∃ before after, attempt.entries = before ++ (counter, digits) :: after ∧
      ∀ others, (counter, others) ∉ after := by
  obtain ⟨numbers, captures, member⟩ := assigns
  have found := (find?_iff known).mpr captures
  have entries_eq : attempt.entries = attempt.rule.counters.zip numbers := by
    rw [entries, found, Option.getD_some]
  obtain ⟨before, after, split⟩ := List.append_of_mem member
  have keys : (attempt.rule.counters.zip numbers).map Prod.fst = attempt.rule.counters :=
    List.map_fst_zip (Nat.le_of_eq (length_of_find? known found).symm)
  have distinct := nodup_counters attempt.rule known
  rw [← keys, split, List.map_append, List.nodup_append] at distinct
  refine ⟨before, after, entries_eq.trans split, ?_⟩
  intro others inside
  have again : counter ∈ after.map Prod.fst := List.mem_map.mpr ⟨_, inside, rfl⟩
  exact (List.nodup_cons.mp distinct.2.1).1 again

/-- The tries are of the known rules. -/
theorem rule_of_mem_triesOf {lines : List (List Char)} {attempt : Try}
    (member : attempt ∈ triesOf lines) : attempt.rule ∈ rules := by
  obtain ⟨line, -, inside⟩ := List.mem_flatMap.mp member
  obtain ⟨rule, known, rfl⟩ := List.mem_map.mp inside
  exact known

/-- The assignments for lines are those of their tries. -/
theorem flatMap_assignments (lines : List (List Char)) :
    lines.flatMap assignments = (triesOf lines).flatMap Try.entries := by
  rw [triesOf, List.flatMap_assoc]
  simp only [List.flatMap_map]
  rfl

/-! ## Assignments one after the other -/

/-- Assigning two lists is assigning one after the other. -/
theorem assign_append (statistics : Statistics) (first second : List (Counter × List Char)) :
    assign statistics (first ++ second) =
      (assign statistics first).bind fun next => assign next second := by
  induction first generalizing statistics with
  | nil => rfl
  | cons entry rest inductionHypothesis =>
    obtain ⟨counter, digits⟩ := entry
    rw [List.cons_append, assign, assign]
    cases Text.readDigits digits with
    | error cause => rfl
    | ok value => exact inductionHypothesis _

/-- What can be assigned as a whole is assigned one list after the other. -/
theorem assign_append_eq_ok {statistics final : Statistics}
    {first second : List (Counter × List Char)} :
    assign statistics (first ++ second) = .ok final ↔
      ∃ next, assign statistics first = .ok next ∧ assign next second = .ok final := by
  rw [assign_append]
  cases assign statistics first with
  | error cause => simp [Except.bind]
  | ok next => simp [Except.bind]

/-- One assignment that can be made, and then others. -/
theorem assign_cons_eq_ok {statistics final : Statistics} {counter : Counter}
    {digits : List Char} {rest : List (Counter × List Char)} :
    assign statistics ((counter, digits) :: rest) = .ok final ↔
      digits.length ≤ Text.maxDigits ∧
        assign (statistics.set (Text.digitsValue digits) counter) rest = .ok final := by
  rw [assign, Text.readDigits]
  by_cases long : Text.maxDigits < digits.length
  · rw [if_pos long]
    constructor
    · intro failed
      cases failed
    · exact fun short => absurd short.1 (Nat.not_le_of_lt long)
  · rw [if_neg long]
    exact ⟨fun made => ⟨Nat.le_of_not_lt long, made⟩, fun short => short.2⟩

/-- A counter keeps its value where nothing is assigned to it. -/
theorem get_assign_of_not_mem {statistics final : Statistics} {counter : Counter}
    {entries : List (Counter × List Char)} (assigned : assign statistics entries = .ok final)
    (none : ∀ digits, (counter, digits) ∉ entries) :
    final.get counter = statistics.get counter := by
  induction entries generalizing statistics with
  | nil =>
    cases assigned
    rfl
  | cons entry rest inductionHypothesis =>
    obtain ⟨other, digits⟩ := entry
    have differs : counter ≠ other := by
      rintro rfl
      exact none digits List.mem_cons_self
    have later := inductionHypothesis (assign_cons_eq_ok.mp assigned).2 fun digits member =>
      none digits (List.mem_cons_of_mem _ member)
    rw [later, get_set, if_neg differs]

/-- A counter has the value of its last assignment. -/
theorem get_assign_last {statistics final : Statistics} {counter : Counter} {digits : List Char}
    {before after : List (Counter × List Char)}
    (assigned : assign statistics (before ++ (counter, digits) :: after) = .ok final)
    (last : ∀ others, (counter, others) ∉ after) :
    final.get counter = Text.digitsValue digits := by
  obtain ⟨next, -, later⟩ := assign_append_eq_ok.mp assigned
  rw [get_assign_of_not_mem (assign_cons_eq_ok.mp later).2 last, get_set, if_pos rfl]

/-- Where something is assigned to a counter, its value does not depend on the one before. -/
theorem get_assign_eq {statistics other final otherFinal : Statistics} {counter : Counter}
    {entries : List (Counter × List Char)} (assigned : assign statistics entries = .ok final)
    (otherAssigned : assign other entries = .ok otherFinal)
    (some : ∃ digits, (counter, digits) ∈ entries) :
      final.get counter = otherFinal.get counter := by
  obtain ⟨digits, member⟩ := some
  have here : ∃ entry ∈ entries, entry.1 = counter := ⟨_, member, rfl⟩
  obtain ⟨before, ⟨_, last⟩, after, rfl, rfl, none⟩ := exists_last here
  have untouched : ∀ others, (_, others) ∉ after := fun others inside => none _ inside rfl
  rw [get_assign_last assigned untouched, get_assign_last otherAssigned untouched]

/-- Whether assignments can be made does not depend on the values before. -/
theorem exists_assign {statistics final : Statistics} {entries : List (Counter × List Char)}
    (assigned : assign statistics entries = .ok final) (other : Statistics) :
    ∃ otherFinal, assign other entries = .ok otherFinal := by
  apply (assign_failsExactly other entries).succeeds
  intro long
  obtain ⟨cause, -, failed⟩ := (assign_failsExactly statistics entries).fails long
  rw [assigned] at failed
  cases failed

/-! ## Tries one after the other -/

section Tries

variable {attempts : List Try} {statistics final : Statistics} {counter : Counter}

/-- Some try assigns to the counter. -/
def AssignedBy (attempts : List Try) (counter : Counter) : Prop :=
  ∃ attempt ∈ attempts, ∃ digits, attempt.Assigns counter digits

/-- Where tries assign to a counter, one of them is the last. -/
theorem AssignedBy.last (assigned : AssignedBy attempts counter) :
    ∃ digits, Last attempts counter digits := by
  obtain ⟨before, attempt, after, same, ⟨digits, assigns⟩, none⟩ := exists_last assigned
  exact ⟨digits, before, attempt, after, same, assigns,
    fun later member others kept => none later member ⟨others, kept⟩⟩

/-- The assignments of tries hold those that the tries make. -/
theorem exists_mem_entries_iff (known : ∀ attempt ∈ attempts, attempt.rule ∈ rules) :
    (∃ digits, (counter, digits) ∈ attempts.flatMap Try.entries) ↔
      AssignedBy attempts counter := by
  constructor
  · rintro ⟨digits, member⟩
    obtain ⟨attempt, inside, entry⟩ := List.mem_flatMap.mp member
    exact ⟨attempt, inside, digits, (Try.mem_entries_iff (known attempt inside)).mp entry⟩
  · rintro ⟨attempt, inside, digits, assigns⟩
    have entry := (Try.mem_entries_iff (known attempt inside)).mpr assigns
    exact ⟨digits, List.mem_flatMap.mpr ⟨attempt, inside, entry⟩⟩

/-- A counter has the value of the digits that the last try with any has for it. -/
theorem get_assign_of_last (known : ∀ attempt ∈ attempts, attempt.rule ∈ rules)
    (assigned : assign statistics (attempts.flatMap Try.entries) = .ok final)
    {digits : List Char} (last : Last attempts counter digits) :
    final.get counter = Text.digitsValue digits := by
  obtain ⟨before, attempt, after, rfl, assigns, none⟩ := last
  obtain ⟨-, ruled, later⟩ := List.forall_mem_append.mp known |>.imp_right List.forall_mem_cons.mp
  obtain ⟨front, back, split, untouched⟩ := Try.entries_split ruled assigns
  rw [List.flatMap_append, List.flatMap_cons, split, List.append_assoc, List.cons_append,
    ← List.append_assoc] at assigned
  apply get_assign_last assigned
  intro others inside
  rcases List.mem_append.mp inside with same | behind
  · exact untouched others same
  · obtain ⟨attempt, member, digits, kept⟩ := (exists_mem_entries_iff later).mp ⟨others, behind⟩
    exact none attempt member digits kept

/-- A counter to which no try assigns keeps its value. -/
theorem get_assign_of_none (known : ∀ attempt ∈ attempts, attempt.rule ∈ rules)
    (assigned : assign statistics (attempts.flatMap Try.entries) = .ok final)
    (none : ¬ AssignedBy attempts counter) : final.get counter = statistics.get counter :=
  get_assign_of_not_mem assigned fun digits member =>
    none ((exists_mem_entries_iff known).mp ⟨digits, member⟩)

end Tries

/-! ## Error output -/

/-- Reading error output is assigning what the tries for it assign. -/
theorem ofErrorOutput_eq (output : String) :
    ofErrorOutput output = assign {} ((tries output).flatMap Try.entries) := by
  rw [ofErrorOutput, flatMap_assignments]
  rfl

/-- No rule stands in an empty line. -/
theorem assignments_nil : assignments [] = [] := by decide

/-- The assignments for two texts, the first of which ends a line, are those for the one and then
    those for the other. -/
theorem entries_append {first second : String} (ends : Text.EndsLine first.toList) :
    (tries (first ++ second)).flatMap Try.entries =
      (tries first).flatMap Try.entries ++ (tries second).flatMap Try.entries := by
  simp only [tries, ← flatMap_assignments, String.toList_append]
  by_cases shared : Text.SharesBreak first.toList second.toList
  · -- the empty line between the two halves of the break is missing, and no rule stands in it
    obtain ⟨returned, fed⟩ := shared
    obtain ⟨rest, same⟩ := List.head?_eq_some_iff.mp fed
    have alone : ¬ Text.SharesBreak ['\n'] rest := fun again => absurd again.1 (by decide)
    rw [same, Text.lines_append_shared returned, Text.lines_break rfl alone, List.flatMap_append,
      List.flatMap_cons, assignments_nil, List.nil_append]
  · rw [Text.lines_append ends shared, List.flatMap_append]

/-- Error output in two parts can be read exactly if both parts can. -/
theorem ofErrorOutput_append_ok {first second : String} (ends : Text.EndsLine first.toList) :
    (∃ whole, ofErrorOutput (first ++ second) = .ok whole) ↔
      (∃ left, ofErrorOutput first = .ok left) ∧ ∃ right, ofErrorOutput second = .ok right := by
  simp only [ofErrorOutput_eq, entries_append ends, assign_append_eq_ok]
  constructor
  · rintro ⟨whole, left, one, two⟩
    exact ⟨⟨left, one⟩, exists_assign two {}⟩
  · rintro ⟨⟨left, one⟩, right, two⟩
    obtain ⟨whole, later⟩ := exists_assign two left
    exact ⟨whole, left, one, later⟩

/-- A counter has its value of the second part if that part assigns to it, and else its value of
    the first. -/
theorem get_ofErrorOutput_append {first second : String} (ends : Text.EndsLine first.toList)
    {whole left right : Statistics} (read : ofErrorOutput (first ++ second) = .ok whole)
    (one : ofErrorOutput first = .ok left) (two : ofErrorOutput second = .ok right)
    (counter : Counter) :
    (AssignedBy (tries second) counter → whole.get counter = right.get counter) ∧
      (¬ AssignedBy (tries second) counter → whole.get counter = left.get counter) := by
  rw [ofErrorOutput_eq, entries_append ends] at read
  rw [ofErrorOutput_eq] at one two
  obtain ⟨middle, same, later⟩ := assign_append_eq_ok.mp read
  obtain rfl : left = middle := Except.ok.inj (one.symm.trans same)
  have known : ∀ attempt ∈ tries second, attempt.rule ∈ rules := fun _ => rule_of_mem_triesOf
  constructor
  · intro assigned
    exact get_assign_eq later two ((exists_mem_entries_iff known).mpr assigned)
  · exact get_assign_of_none known later

/-- The last assignment counts. Whenever error output can be read, each counter has the number
    that the last try has for it, line by line and in the order of the rules, or is zero if no
    try has one. So for error output in two parts, cut at the end of a line, each counter has the
    value of the second part if that part assigns to it, and else the value of the first. -/
theorem last_assignment_counts :
    (∀ output statistics, ofErrorOutput output = .ok statistics → ∀ counter,
      ((∃ digits, Last (tries output) counter digits) ∧
        ∀ digits, Last (tries output) counter digits →
          statistics.get counter = Text.digitsValue digits) ∨
      (¬ AssignedBy (tries output) counter ∧ statistics.get counter = 0)) ∧
    ∀ first second : String, Text.EndsLine first.toList →
      ((∃ whole, ofErrorOutput (first ++ second) = .ok whole) ↔
        (∃ left, ofErrorOutput first = .ok left) ∧
          ∃ right, ofErrorOutput second = .ok right) ∧
      ∀ whole left right, ofErrorOutput (first ++ second) = .ok whole →
        ofErrorOutput first = .ok left → ofErrorOutput second = .ok right → ∀ counter,
          (AssignedBy (tries second) counter → whole.get counter = right.get counter) ∧
          (¬ AssignedBy (tries second) counter → whole.get counter = left.get counter) := by
  constructor
  · intro output statistics read counter
    rw [ofErrorOutput_eq] at read
    have known : ∀ attempt ∈ tries output, attempt.rule ∈ rules := fun _ => rule_of_mem_triesOf
    by_cases assigned : AssignedBy (tries output) counter
    · exact .inl ⟨assigned.last, fun digits last => get_assign_of_last known read last⟩
    · refine .inr ⟨assigned, (get_assign_of_none known read assigned).trans ?_⟩
      cases counter <;> rfl
  · intro first second ends
    exact ⟨ofErrorOutput_append_ok ends, fun whole left right read one two counter =>
      get_ofErrorOutput_append ends read one two counter⟩

/-- The summary of a first run: two warnings, and three suppressed. -/
def firstSummary : String := "2 warnings generated.\nSuppressed 3 warnings (3 in non-user code).\n"

/-- The summary of a second run: one warning. -/
def secondSummary : String := "1 warning generated.\n"

/-- Of both summaries together the warnings are those of the second, the suppressed ones those of
    the first. -/
theorem last_assignment_counts_summaries :
    ofErrorOutput (firstSummary ++ secondSummary) = .ok ⟨1, 0, 0, 3, 3, 0⟩ ∧
    (∃ digits, Last (tries (firstSummary ++ secondSummary)) .warnings digits ∧
      Text.digitsValue digits = 1) ∧
    ¬ AssignedBy (tries secondSummary) .suppressedWarnings := by
  have whole : ofErrorOutput (firstSummary ++ secondSummary) = .ok ⟨1, 0, 0, 3, 3, 0⟩ := rfl
  have first : ofErrorOutput firstSummary = .ok ⟨2, 0, 0, 3, 3, 0⟩ := rfl
  have second : ofErrorOutput secondSummary = .ok ⟨1, 0, 0, 0, 0, 0⟩ := rfl
  have ends : Text.EndsLine firstSummary.toList := by
    intro last found
    obtain rfl : '\n' = last := Option.some.inj (Eq.trans rfl found)
    rfl
  refine ⟨whole, ?warnings, ?suppressed⟩
  case warnings =>
    rcases last_assignment_counts.1 _ _ whole .warnings with ⟨⟨digits, last⟩, value⟩ | ⟨-, zero⟩
    · have same : (1 : Int) = Text.digitsValue digits := value digits last
      exact ⟨digits, last, by omega⟩
    · cases zero
  case suppressed =>
    intro assigned
    have parts := (last_assignment_counts.2 _ _ ends).2 _ _ _ whole first second
    cases (parts .suppressedWarnings).1 assigned

end LintReview.Statistics
