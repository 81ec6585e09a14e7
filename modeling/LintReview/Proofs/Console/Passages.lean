import LintReview.Console.Message
import Mathlib.Data.List.TakeWhile

/-!
# Passages in a style

A passage in a style stands between the name of the style in brackets and the same name after
a slash. Where brackets and backslashes stand for nothing else, a text with such a passage can
be printed, whatever the style is. The messages of a run are of this kind, so none of them ends
it, provided that the name of the program is not written with styles of its own.
-/

namespace LintReview

namespace Console

/-- The characters neither open a bracket nor escape one. -/
def IsPlain (text : List Char) : Prop := ∀ character ∈ text, character ≠ '[' ∧ character ≠ '\\'

instance (text : List Char) : Decidable (IsPlain text) :=
  List.decidableBAll (fun character => character ≠ '[' ∧ character ≠ '\\') text

/-- The characters neither stand around a bracket's content nor part it. -/
def IsUnbroken (text : List Char) : Prop :=
  ∀ character ∈ text, character ≠ '[' ∧ character ≠ ']' ∧ character ≠ '='

instance (text : List Char) : Decidable (IsUnbroken text) :=
  List.decidableBAll (fun character => character ≠ '[' ∧ character ≠ ']' ∧ character ≠ '=') text

/-- A name that can stand in brackets for a style. -/
structure IsStyleName (name : List Char) : Prop where
  begins : ∃ first others, name = first :: others ∧ Bracket.isFirst first = true
  unslashed : name.head? ≠ some '/'
  unbroken : IsUnbroken name
  trimmed : Text.trim name = name

/-- No bracket stands at a plain character. -/
theorem of?_plain {character : Char} {rest : List Char} (unopened : character ≠ '[')
    (unescaped : character ≠ '\\') : Bracket.of? (character :: rest) = none := by
  have slashes : (character :: rest).takeWhile (· = '\\') = [] := by simp [unescaped]
  unfold Bracket.of?
  simp [slashes, Text.after?, Ne.symm unopened]

/-- A bracket with a name in it. -/
theorem of?_bracket {first : Char} {others : List Char} (rest : List Char)
    (begins : Bracket.isFirst first = true) (unbroken : IsUnbroken (first :: others)) :
    Bracket.of? ('[' :: (first :: others ++ ']' :: rest)) = some ⟨0, first :: others, rest⟩ := by
  have inside : (others ++ ']' :: rest).takeWhile
      (fun character => character ≠ '[' && character ≠ ']') = others := by
    rw [List.takeWhile_append_of_pos]
    · simp
    · intro character member
      obtain ⟨unopened, unclosed, -⟩ := unbroken character (List.mem_cons_of_mem first member)
      simp [unopened, unclosed]
  have closed : Text.after? (others ++ [']']) (others ++ ']' :: rest) = some rest :=
    Text.after?_eq_some_iff.mpr (by simp)
  change Bracket.ofContent? 0 (first :: (others ++ ']' :: rest)) = _
  simp only [Bracket.ofContent?, inside, begins, closed]

/-- A plain character is put in front of the parts of what follows it. -/
theorem partsOf_plain {character : Char} {rest : List Char} (unopened : character ≠ '[')
    (unescaped : character ≠ '\\') :
    partsOf (character :: rest) = addPlain character (partsOf rest) := by
  rw [partsOf]
  split
  · next bracket found =>
    rw [of?_plain unopened unescaped] at found
    cases found
  · rfl

/-- A bracket with a name in it is a part of its own. -/
theorem partsOf_bracket {first : Char} {others : List Char} (rest : List Char)
    (begins : Bracket.isFirst first = true) (unbroken : IsUnbroken (first :: others)) :
    partsOf ('[' :: (first :: others ++ ']' :: rest)) = .tag (first :: others) :: partsOf rest := by
  have whole := of?_bracket rest begins unbroken
  have named : (first :: others).takeWhile (fun character => !decide (character = '=')) =
      first :: others := by
    rw [List.takeWhile_eq_self_iff]
    intro character member
    simpa using (unbroken character member).2.2
  rw [partsOf]
  split
  · next bracket found =>
    obtain rfl := Option.some.inj (whole.symm.trans found)
    simp [Bracket.parts, Bracket.name, named]
  · next found =>
    rw [whole] at found
    cases found

/-- A plain character in front does not decide whether parts can be printed. -/
theorem isSome_addPlain (begun : List (List Char)) (character : Char) (parts : List Part) :
    (printedParts? begun (addPlain character parts)).isSome =
      (printedParts? begun parts).isSome := by
  unfold addPlain
  split <;> simp [printedParts?]

/-- Plain characters in front do not decide whether a text can be printed. -/
theorem isSome_plain {text : List Char} (plain : IsPlain text) (begun : List (List Char))
    (rest : List Char) :
    (printedParts? begun (partsOf (text ++ rest))).isSome =
      (printedParts? begun (partsOf rest)).isSome := by
  induction text with
  | nil => rfl
  | cons character text inductionHypothesis =>
    obtain ⟨unopened, unescaped⟩ := plain character List.mem_cons_self
    have others := inductionHypothesis fun other member =>
      plain other (List.mem_cons_of_mem _ member)
    rw [List.cons_append, partsOf_plain unopened unescaped, isSome_addPlain, others]

/-- A name in brackets begins its style. -/
theorem printedParts?_opening {name : List Char} (styled : IsStyleName name)
    (begun : List (List Char)) (rest : List Char) :
    printedParts? begun (partsOf ('[' :: (name ++ ']' :: rest))) =
      printedParts? (Style.plainName name :: begun) (partsOf rest) := by
  obtain ⟨first, others, rfl, begins⟩ := styled.begins
  rw [partsOf_bracket rest begins styled.unbroken, printedParts?]
  rintro closed same
  exact styled.unslashed (by simp [same])

/-- The same name after a slash ends the style that began last. -/
theorem printedParts?_closing {name : List Char} (styled : IsStyleName name)
    (begun : List (List Char)) (rest : List Char) :
    printedParts? (Style.plainName name :: begun)
        (partsOf ('[' :: ('/' :: name ++ ']' :: rest))) =
      printedParts? begun (partsOf rest) := by
  have unbroken : IsUnbroken ('/' :: name) := by
    intro character member
    rcases List.mem_cons.mp member with rfl | inside
    · decide
    · exact styled.unbroken character inside
  obtain ⟨first, others, rfl, begins⟩ := styled.begins
  have known : Text.isOneOf (Style.plainName (first :: others) :: begun)
      (Style.plainName (first :: others)) = true :=
    Text.isOneOf_iff.mpr List.mem_cons_self
  rw [partsOf_bracket rest (by decide) unbroken, printedParts?.eq_def]
  simp only [styled.trimmed, known, if_true]
  simp

/-- A text with one passage in a style can be printed. -/
theorem isSome_printed?_passage {name before inner after : List Char}
    (styled : IsStyleName name) (plainBefore : IsPlain before) (plainInner : IsPlain inner)
    (plainAfter : IsPlain after) :
    (printed? (before ++ '[' :: (name ++ ']' ::
      (inner ++ '[' :: ('/' :: name ++ ']' :: after))))).isSome = true := by
  have ending : (printedParts? [] (partsOf after)).isSome = true := by
    have bare := isSome_plain plainAfter [] []
    rw [List.append_nil] at bare
    rw [bare]
    simp [partsOf, Bracket.of?, Text.after?, printedParts?]
  rw [printed?, isSome_plain plainBefore, printedParts?_opening styled, isSome_plain plainInner,
    printedParts?_closing styled, ending]

/-- Plain texts one after the other are plain. -/
theorem IsPlain.append {first second : List Char} (plain : IsPlain first)
    (others : IsPlain second) : IsPlain (first ++ second) :=
  List.forall_mem_append.mpr ⟨plain, others⟩

/-- A written number is plain. -/
theorem isPlain_number (value : Nat) : IsPlain (toString value).toList := by
  intro character member
  have digit : character.isDigit = true := by
    have written : (toString value).toList = Nat.toDigits 10 value := by
      rw [Nat.toString_eq_repr, Nat.repr, String.toList_ofList]
    rw [written] at member
    exact Nat.isDigit_of_mem_toDigits (by decide) (by decide) member
  constructor
  · rintro rfl
    exact absurd digit (by decide)
  · rintro rfl
    exact absurd digit (by decide)

namespace Message

/-- The message that a checker begins can be printed if the program's name is plain. -/
theorem isSome_running {checker : Checker} (plain : IsPlain checker.programName.toList)
    (fileCount : Nat) : (printed? (running checker fileCount).toList).isSome = true := by
  have styled : IsStyleName "bold".toList := ⟨⟨'b', _, rfl, rfl⟩, by decide, by decide, rfl⟩
  have after : IsPlain (" on ".toList ++ (toString fileCount).toList ++ " file(s)".toList) :=
    (IsPlain.append (by decide) (isPlain_number fileCount)).append (by decide)
  have text : running checker fileCount =
      "Running [bold]" ++ checker.programName ++ "[/bold] on " ++ toString fileCount ++
        " file(s)" := rfl
  have opening : "Running [bold]".toList = "Running ".toList ++ '[' :: ("bold".toList ++ [']']) :=
    rfl
  have closing : "[/bold] on ".toList =
      '[' :: ('/' :: "bold".toList ++ ']' :: " on ".toList) := rfl
  have passage := isSome_printed?_passage styled (by decide : IsPlain "Running ".toList) plain after
  rw [text]
  simp only [String.toList_append, opening, closing]
  simpa only [List.append_assoc, List.cons_append, List.nil_append] using passage

/-- The style of what has become of a review. -/
theorem isStyleName_green : IsStyleName "green".toList :=
  ⟨⟨'g', _, rfl, rfl⟩, by decide, by decide, rfl⟩

/-- The message that a review has been posted can be printed. -/
theorem isSome_reviewPosted (count : Nat) :
    (printed? (reviewPosted count).toList).isSome = true := by
  have inner : IsPlain
      ("Review posted with ".toList ++ (toString count).toList ++ " comment(s).".toList) :=
    (IsPlain.append (by decide) (isPlain_number count)).append (by decide)
  have text : reviewPosted count =
      "[green]Review posted with " ++ toString count ++ " comment(s).[/green]" := rfl
  have opening : "[green]Review posted with ".toList =
      '[' :: ("green".toList ++ ']' :: "Review posted with ".toList) := rfl
  have closing : " comment(s).[/green]".toList =
      " comment(s).".toList ++ '[' :: ('/' :: "green".toList ++ [']']) := rfl
  have passage := isSome_printed?_passage isStyleName_green (List.forall_mem_nil _) inner
    (List.forall_mem_nil _)
  rw [text]
  simp only [String.toList_append, opening, closing]
  simpa only [List.append_assoc, List.cons_append, List.nil_append] using passage

end Message

end Console

/-- A text that can be printed is printed, and nothing else happens. -/
theorem Session.say_run {text : String} (printable : (Console.printed? text.toList).isSome = true)
    (world : World) :
    ∃ shown, (say text).run.run world = (.ok (), { world with console := shown }) := by
  obtain ⟨plain, known⟩ := Option.isSome_iff_exists.mp printable
  unfold say
  rw [known]
  exact ⟨_, rfl⟩

end LintReview
