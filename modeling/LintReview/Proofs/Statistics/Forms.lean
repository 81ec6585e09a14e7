import LintReview.Proofs.Statistics.Counts

/-!
# Where a form stands

What it means for a form to stand in a line is said here without a way of finding it: the line is
put together from a front, texts for the parts of the form, and a back (`Stands`, `Captures`). A
number may be any digits in a row, and several ways of putting a line together might give
different numbers. The forms of the rules leave one way only, since what follows a number is no
digit and what follows text that may be missing begins otherwise (`isDefinite`). So a rule finds
exactly the numbers of the leftmost place where its form stands (`find?_iff`).
-/

namespace LintReview.Statistics

/-- The form stands at the start of the text and has these numbers there. -/
inductive Stands : List Part → List Char → List (List Char) → Prop where
  | done (rest : List Char) : Stands [] rest []
  | text (content : List Char) {parts : List Part} {rest : List Char} {numbers : List (List Char)}
      (later : Stands parts rest numbers) :
      Stands (.text content :: parts) (content ++ rest) numbers
  | present (content : List Char) {parts : List Part} {rest : List Char}
      {numbers : List (List Char)} (later : Stands parts rest numbers) :
      Stands (.maybe content :: parts) (content ++ rest) numbers
  | absent (content : List Char) {parts : List Part} {rest : List Char}
      {numbers : List (List Char)} (later : Stands parts rest numbers) :
      Stands (.maybe content :: parts) rest numbers
  | number {digits : List Char} {parts : List Part} {rest : List Char}
      {numbers : List (List Char)} (nonempty : digits ≠ [])
      (decimal : ∀ digit ∈ digits, Text.isDigit digit = true)
      (later : Stands parts rest numbers) :
      Stands (.number :: parts) (digits ++ rest) (digits :: numbers)

/-- The form goes on with text whose first character passes a test. -/
def startsWith (test : Char → Bool) : List Part → Bool
  | .text (first :: _) :: _ => test first
  | _ => false

/-- No part can end at two places: a number is followed by something that is no digit, and text
    that may be missing by something that begins otherwise. -/
def isDefinite : List Part → Bool
  | [] => true
  | .text _ :: parts => isDefinite parts
  | .maybe content :: parts =>
    startsWith (fun first => content.head?.any (· ≠ first)) parts && isDefinite parts
  | .number :: parts => startsWith (fun first => !Text.isDigit first) parts && isDefinite parts

/-- The forms of all rules are definite. -/
theorem isDefinite_rules : ∀ rule ∈ rules, isDefinite rule.parts = true := by decide

/-! ## At the start of a text -/

/-- Text of the form is matched where it stands. -/
theorem matchParts?_text (content : List Char) (parts : List Part) (rest : List Char) :
    matchParts? (.text content :: parts) (content ++ rest) = matchParts? parts rest := by
  have front : Text.after? content (content ++ rest) = some rest :=
    Text.after?_eq_some_iff.mpr rfl
  rw [matchParts?, front, Option.bind_some]

/-- Digits in front of something that is no digit are matched as a whole. -/
theorem matchParts?_digits {digits : List Char} (nonempty : digits ≠ [])
    (decimal : ∀ digit ∈ digits, Text.isDigit digit = true) (parts : List Part) {next : Char}
    (rest : List Char) (ends : Text.isDigit next = false) :
    matchParts? (.number :: parts) (digits ++ next :: rest) =
      (matchParts? parts (next :: rest)).map (digits :: ·) := by
  have taken : (digits ++ next :: rest).takeWhile Text.isDigit = digits := by
    rw [List.takeWhile_append_of_pos decimal, List.takeWhile_cons_of_neg (by simp [ends]),
      List.append_nil]
  have dropped : (digits ++ next :: rest).dropWhile Text.isDigit = next :: rest := by
    rw [List.dropWhile_append_of_pos decimal, List.dropWhile_cons_of_neg (by simp [ends])]
  rw [matchParts?, taken, dropped, if_neg (by simpa using nonempty)]

/-- What is matched stands at the start of the text. -/
theorem stands_of_matchParts? {parts : List Part} {text : List Char} {numbers : List (List Char)}
    (found : matchParts? parts text = some numbers) : Stands parts text numbers := by
  induction parts generalizing text numbers with
  | nil =>
    cases found
    exact .done text
  | cons part rest inductionHypothesis =>
    cases part with
    | text content =>
      obtain ⟨after, front, later⟩ := Option.bind_eq_some_iff.mp found
      obtain rfl := Text.after?_eq_some_iff.mp front
      exact .text content (inductionHypothesis later)
    | maybe content =>
      rw [matchParts?, Option.orElse_eq_orElse, Option.orElse_eq_or,
        Option.or_eq_some_iff] at found
      rcases found with present | ⟨-, absent⟩
      · obtain ⟨after, front, later⟩ := Option.bind_eq_some_iff.mp present
        obtain rfl := Text.after?_eq_some_iff.mp front
        exact .present content (inductionHypothesis later)
      · exact .absent content (inductionHypothesis absent)
    | number =>
      rw [matchParts?] at found
      split at found
      · cases found
      · next filled =>
        obtain ⟨others, later, rfl⟩ := Option.map_eq_some_iff.mp found
        have decimal : ∀ digit ∈ text.takeWhile Text.isDigit, Text.isDigit digit = true :=
          List.all_eq_true.mp List.all_takeWhile
        have stands := Stands.number (by simpa using filled) decimal (inductionHypothesis later)
        rwa [List.takeWhile_append_dropWhile] at stands

/-- What a form goes on with stands at the start of the text. -/
theorem Stands.first {test : Char → Bool} {parts : List Part} {text : List Char}
    {numbers : List (List Char)} (stands : Stands parts text numbers)
    (starts : startsWith test parts = true) :
    ∃ first rest, text = first :: rest ∧ test first = true := by
  cases stands with
  | text content later =>
    cases content with
    | nil => cases starts
    | cons first others => exact ⟨first, _, rfl, starts⟩
  | done => cases starts
  | present => cases starts
  | absent => cases starts
  | number => cases starts

/-- A definite form that stands at the start of a text is matched there.

    By induction on the way in which it stands. Each part is matched up to the place where it ends
    there, since it can end at no other. -/
theorem Stands.matchParts? {parts : List Part} {text : List Char} {numbers : List (List Char)}
    (stands : Stands parts text numbers) (definite : isDefinite parts = true) :
    matchParts? parts text = some numbers := by
  induction stands with
  | done rest => rfl
  | @text content parts rest numbers later inductionHypothesis =>
    rw [matchParts?_text]
    exact inductionHypothesis definite
  | @present content parts rest numbers later inductionHypothesis =>
    have front : Text.after? content (content ++ rest) = some rest :=
      Text.after?_eq_some_iff.mpr rfl
    rw [Statistics.matchParts?, front, Option.bind_some,
      inductionHypothesis (Bool.and_eq_true_iff.mp definite).2]
    rfl
  | @absent content parts rest numbers later inductionHypothesis =>
    obtain ⟨starts, others⟩ := Bool.and_eq_true_iff.mp definite
    obtain ⟨first, remaining, rfl, apart⟩ := later.first starts
    have missing : Text.after? content (first :: remaining) = none := by
      cases content with
      | nil => cases apart
      | cons optional more =>
        have differs : optional ≠ first := by simpa using apart
        rw [Text.after?, if_neg differs]
    rw [Statistics.matchParts?, missing, Option.bind_none, inductionHypothesis others]
    rfl
  | @number digits parts rest numbers nonempty decimal later inductionHypothesis =>
    obtain ⟨starts, others⟩ := Bool.and_eq_true_iff.mp definite
    obtain ⟨first, remaining, rfl, apart⟩ := later.first starts
    have ends : Text.isDigit first = false := by simpa using apart
    rw [matchParts?_digits nonempty decimal parts remaining ends, inductionHypothesis others]
    rfl

/-- A definite form is matched at the start of a text exactly if it stands there. -/
theorem matchParts?_iff {parts : List Part} (definite : isDefinite parts = true)
    {text : List Char} {numbers : List (List Char)} :
    matchParts? parts text = some numbers ↔ Stands parts text numbers :=
  ⟨stands_of_matchParts?, fun stands => stands.matchParts? definite⟩

/-! ## In a line -/

/-- The form stands in the text, and at no place further to the left. -/
structure StandsLeftmost (parts : List Part) (front back : List Char)
    (numbers : List (List Char)) : Prop where
  here : Stands parts back numbers
  leftmost : ∀ earlier later, earlier ++ later = front ++ back →
    earlier.length < front.length → ∀ others, ¬ Stands parts later others

/-- Nothing is further to the left than the start. -/
theorem standsLeftmost_nil {parts : List Part} {back : List Char} {numbers : List (List Char)} :
    StandsLeftmost parts [] back numbers ↔ Stands parts back numbers :=
  ⟨fun stands => stands.here, fun here => ⟨here, fun _ _ _ further => absurd further (by simp)⟩⟩

/-- With a character in front the form must not stand at the new start. -/
theorem standsLeftmost_cons {parts : List Part} {character : Char} {front back : List Char}
    {numbers : List (List Char)} :
    StandsLeftmost parts (character :: front) back numbers ↔
      (∀ others, ¬ Stands parts (character :: (front ++ back)) others) ∧
        StandsLeftmost parts front back numbers := by
  constructor
  · intro stands
    refine ⟨stands.leftmost [] _ rfl (by simp), stands.here, ?_⟩
    intro earlier later same further
    refine stands.leftmost (character :: earlier) later ?_ (by simpa using further)
    rw [List.cons_append, same, List.cons_append]
  · rintro ⟨absent, stands⟩
    refine ⟨stands.here, ?_⟩
    intro earlier later same further
    cases earlier with
    | nil =>
      obtain rfl : later = character :: (front ++ back) := same
      exact absent
    | cons first others =>
      exact stands.leftmost others later (List.cons.inj same).2 (by simpa using further)

/-- A search finds the numbers of the leftmost place where a definite form stands. -/
theorem searchParts?_iff {parts : List Part} (definite : isDefinite parts = true)
    {text : List Char} {numbers : List (List Char)} :
    searchParts? parts text = some numbers ↔
      ∃ front back, text = front ++ back ∧ StandsLeftmost parts front back numbers := by
  induction text with
  | nil =>
    rw [searchParts?, matchParts?_iff definite, ← standsLeftmost_nil]
    constructor
    · exact fun stands => ⟨[], [], rfl, stands⟩
    · rintro ⟨front, back, empty, stands⟩
      obtain ⟨rfl, rfl⟩ := List.append_eq_nil_iff.mp empty.symm
      exact stands
  | cons character rest inductionHypothesis =>
    rw [searchParts?, Option.orElse_eq_orElse, Option.orElse_eq_or, Option.or_eq_some_iff,
      inductionHypothesis, matchParts?_iff definite]
    constructor
    · rintro (here | ⟨absent, front, back, rfl, stands⟩)
      · exact ⟨[], character :: rest, rfl, standsLeftmost_nil.mpr here⟩
      · refine ⟨character :: front, back, rfl, standsLeftmost_cons.mpr ⟨?_, stands⟩⟩
        intro others here
        rw [here.matchParts? definite] at absent
        cases absent
    · rintro ⟨front, back, same, stands⟩
      cases front with
      | nil =>
        obtain rfl : character :: rest = back := same
        exact .inl stands.here
      | cons first front =>
        obtain ⟨rfl, rfl⟩ := List.cons.inj same
        obtain ⟨absent, later⟩ := standsLeftmost_cons.mp stands
        refine .inr ⟨?_, front, back, rfl, later⟩
        rw [Option.eq_none_iff_forall_ne_some]
        exact fun others found => absent others (stands_of_matchParts? found)

/-- The rule has these numbers in the line: its form stands there, at the start if it must and
    else at the leftmost place. -/
def Rule.Captures (rule : Rule) (line : List Char) (numbers : List (List Char)) : Prop :=
  ∃ front back, line = front ++ back ∧ (rule.anchored = true → front = []) ∧
    StandsLeftmost rule.parts front back numbers

/-- A rule finds in a line the numbers that it has there. -/
theorem find?_iff {rule : Rule} (known : rule ∈ rules) {line : List Char}
    {numbers : List (List Char)} : rule.find? line = some numbers ↔ rule.Captures line numbers := by
  have definite := isDefinite_rules rule known
  rw [Rule.find?, Rule.Captures]
  by_cases anchored : rule.anchored = true
  · rw [if_pos anchored, matchParts?_iff definite, ← standsLeftmost_nil]
    constructor
    · exact fun stands => ⟨[], line, rfl, fun _ => rfl, stands⟩
    · rintro ⟨front, back, rfl, atStart, stands⟩
      obtain rfl := atStart anchored
      exact stands
  · rw [if_neg anchored, searchParts?_iff definite]
    constructor
    · rintro ⟨front, back, same, stands⟩
      exact ⟨front, back, same, fun atStart => absurd atStart anchored, stands⟩
    · rintro ⟨front, back, same, -, stands⟩
      exact ⟨front, back, same, stands⟩

end LintReview.Statistics
