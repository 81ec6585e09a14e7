import LintReview.Pattern.Match
import Mathlib.Algebra.Order.Monoid.Unbundled.Pow
import Mathlib.Computability.Language
import Mathlib.Data.List.Forall2

/-!
# The language of a pattern

A pattern that is put together from sets of characters, sequences, choices, repetitions and groups
describes a language: the texts that can be put together in the same way (`Node.language`). Which
way is tried first does not show in it. Matching tries one way after the other, and still finds a
whole text exactly if it is in the language (`matchesAll_iff`): what follows a part is tried behind
each text of the part, and the rounds without a character, at which a repetition stops, can be left
out of any text (`exists_first_round`).
-/

namespace LintReview.Pattern

open scoped Computability

/-- No part looks around, asks for a text again or keeps to its first way. -/
def Node.isRegular : Node → Bool
  | .empty | .never | .one _ => true
  | .sequence first second | .choice first second => first.isRegular && second.isRegular
  | .repetition greed _ _ body => greed ≠ .possessive && body.isRegular
  | .group _ body => body.isRegular
  | .anchor _ | .atomic _ | .ahead _ _ | .behind _ _ _ | .again _ _ _ | .conditional _ _ _ => false

/-- The texts of a single character of a set. -/
def CharacterSet.texts (set : CharacterSet) : Language Char :=
  {text | ∃ character, set.contains character = true ∧ text = [character]}

/-- The texts of the rounds beyond the least number, each of which may be left out. -/
def furtherRounds (round : Language Char) (least : Nat) : Option Nat → Language Char
  | none => round∗
  | some bound => (1 + round) ^ (bound - least)

/-- The texts that a regular pattern describes. Of other patterns none is listed. -/
def Node.language : Node → Language Char
  | .empty => 1
  | .one set => set.texts
  | .sequence first second => first.language * second.language
  | .choice first second => first.language + second.language
  | .repetition _ least most body =>
    body.language ^ least * furtherRounds body.language least most
  | .group _ body => body.language
  | _ => 0

/-- What follows is matched exactly where the rest of the text is in the language. -/
def Decides (following : Following) (target : Language Char) : Prop :=
  ∀ progress, (following progress).isSome = true ↔ progress.rest ∈ target

/-- The matcher takes a text of the language and leaves the rest to what follows. -/
def Takes (run : Matcher) (language : Language Char) : Prop :=
  ∀ following target, Decides following target → Decides (run following) (language * target)

/-! ## Rounds -/

section Rounds

variable {round target : Language Char}

/-- The more rounds there may be, the more texts there are. -/
theorem rounds_mono {few many : Nat} (fewer : few ≤ many) {text : List Char}
    (member : text ∈ (1 + round) ^ few * target) : text ∈ (1 + round) ^ many * target := by
  have optional : (1 : Language Char) ≤ 1 + round := le_self_add
  exact mul_le_mul_left (pow_le_pow_right' optional fewer) target member

/-- No round is needed. -/
theorem mem_rounds_of_mem (room : Nat) {text : List Char} (member : text ∈ target) :
    text ∈ (1 + round) ^ room * target :=
  rounds_mono (Nat.zero_le room) (by rwa [pow_zero, one_mul])

/-- A round in front of others. -/
theorem append_mem_rounds {room : Nat} {front back : List Char} (first : front ∈ round)
    (later : back ∈ (1 + round) ^ room * target) :
    front ++ back ∈ (1 + round) ^ (room + 1) * target := by
  rw [pow_succ', mul_assoc]
  exact Language.append_mem_mul ((Language.mem_add ..).mpr (.inr first)) later

/-- Unless there is no round at all, there is a first one with a character: those without can be
    left out. -/
theorem exists_first_round {room : Nat} {text : List Char}
    (member : text ∈ (1 + round) ^ room * target) :
    text ∈ target ∨ ∃ front back, front ++ back = text ∧ front ≠ [] ∧ front ∈ round ∧
      back ∈ (1 + round) ^ (room - 1) * target := by
  induction room generalizing text with
  | zero => exact .inl (by rwa [pow_zero, one_mul] at member)
  | succ room inductionHypothesis =>
    rw [pow_succ', mul_assoc] at member
    obtain ⟨front, optional, back, later, rfl⟩ := Language.mem_mul.mp member
    by_cases empty : front = []
    · rw [empty, List.nil_append]
      rcases inductionHypothesis later with none | ⟨first, rest, whole, filled, taken, behind⟩
      · exact .inl none
      · exact .inr ⟨first, rest, whole, filled, taken, rounds_mono (Nat.sub_le room 1) behind⟩
    · have taken : front ∈ round := ((Language.mem_add ..).mp optional).resolve_left empty
      exact .inr ⟨front, back, rfl, empty, taken, later⟩

/-- There need be no more rounds than the text has characters. -/
theorem rounds_within_length {room : Nat} {text : List Char}
    (member : text ∈ (1 + round) ^ room * target) :
    text ∈ (1 + round) ^ text.length * target := by
  induction room generalizing text with
  | zero => exact mem_rounds_of_mem text.length (by rwa [pow_zero, one_mul] at member)
  | succ room inductionHypothesis =>
    rcases exists_first_round member with none | ⟨front, back, rfl, filled, taken, later⟩
    · exact mem_rounds_of_mem text.length none
    · have longer : back.length + 1 ≤ (front ++ back).length := by
        have one : 0 < front.length := List.length_pos_iff.mpr filled
        rw [List.length_append]
        omega
      exact rounds_mono longer (append_mem_rounds taken (inductionHypothesis later))

/-- Any number of rounds is some number of them. -/
theorem mem_kstar_mul_iff {text : List Char} :
    text ∈ round∗ * target ↔ ∃ room, text ∈ (1 + round) ^ room * target := by
  constructor
  · intro member
    obtain ⟨front, rounds, back, later, rfl⟩ := Language.mem_mul.mp member
    rw [Language.kstar_eq_iSup_pow, Language.mem_iSup] at rounds
    obtain ⟨count, rounds⟩ := rounds
    have optional : round ≤ 1 + round := le_add_self
    exact ⟨count, Language.append_mem_mul (pow_le_pow_left' optional count rounds) later⟩
  · rintro ⟨room, member⟩
    have within : (1 + round) ^ room ≤ round∗ :=
      calc (1 + round) ^ room ≤ (round∗) ^ room :=
            pow_le_pow_left' (add_le one_le_kstar le_kstar) room
        _ ≤ (round∗)∗ := pow_le_kstar
        _ = round∗ := kstar_idem round
    exact mul_le_mul_left within target member

/-- The room that a repetition gives itself is enough for all further rounds. -/
theorem mem_furtherRounds_iff (least : Nat) (most : Option Nat) (progress : Progress) :
    progress.rest ∈ furtherRounds round least most * target ↔
      progress.rest ∈ (1 + round) ^ roomFor least most progress * target := by
  cases most with
  | none =>
    rw [furtherRounds, mem_kstar_mul_iff]
    constructor
    · rintro ⟨room, member⟩
      exact rounds_mono (Nat.le_succ _) (rounds_within_length member)
    · exact fun member => ⟨_, member⟩
  | some bound =>
    constructor
    · intro member
      rcases Nat.le_total (bound - least) (progress.rest.length + 1) with few | many
      · rwa [roomFor, Nat.min_eq_left few]
      · rw [roomFor, Nat.min_eq_right many]
        exact rounds_mono (Nat.le_succ _) (rounds_within_length member)
    · exact rounds_mono (Nat.min_le_left _ _)

end Rounds

/-! ## Repetitions -/

/-- The texts that are taken by at most `room` further rounds and then what follows, where the round
    before began with `last` characters left. Behind a round without a character there is none. -/
def afterRound (round target : Language Char) (room : Nat) (last : Option Nat) : Language Char :=
  {text | text ∈ target ∨ last ≠ some text.length ∧ text ∈ (1 + round) ^ room * target}

section Repetitions

variable {run : Matcher} {round target : Language Char} {following : Following}

/-- Where the round before took no character, only what follows is tried. -/
theorem mem_afterRound_same {room : Nat} {text : List Char} :
    text ∈ afterRound round target room (some text.length) ↔ text ∈ target :=
  ⟨fun member => member.resolve_right fun further => further.1 rfl, .inl⟩

/-- Without room there is no further round. -/
theorem mem_afterRound_zero {last : Option Nat} {text : List Char} :
    text ∈ afterRound round target 0 last ↔ text ∈ target := by
  refine ⟨fun member => member.elim id fun further => ?_, .inl⟩
  simpa using further.2

/-- Otherwise there may be all the rounds for which there is room. -/
theorem mem_afterRound_other {room : Nat} {last : Option Nat} {text : List Char}
    (other : last ≠ some text.length) :
    text ∈ afterRound round target room last ↔ text ∈ (1 + round) ^ room * target :=
  ⟨fun member => member.elim (mem_rounds_of_mem room) And.right, fun member => .inr ⟨other, member⟩⟩

/-- With `room` for one more, there is a round or none. -/
theorem mem_rounds_succ_iff {room : Nat} {text : List Char} :
    text ∈ (1 + round) ^ (room + 1) * target ↔
      text ∈ round * afterRound round target room (some text.length) ∨ text ∈ target := by
  constructor
  · intro member
    rcases exists_first_round member with none | ⟨front, back, rfl, filled, taken, later⟩
    · exact .inr none
    · have shorter : some (front ++ back).length ≠ some back.length := by
        simpa using filled
      exact .inl (Language.append_mem_mul taken (.inr ⟨shorter, later⟩))
  · rintro (member | none)
    · obtain ⟨front, taken, back, none | ⟨-, later⟩, rfl⟩ := Language.mem_mul.mp member
      · exact append_mem_rounds taken (mem_rounds_of_mem room none)
      · exact append_mem_rounds taken later
    · exact mem_rounds_of_mem _ none

/-- A matcher that is used a number of times takes as many texts. -/
theorem Takes.times (takes : Takes run round) (count : Nat) :
    Takes (Pattern.times run count) (round ^ count) := by
  intro following target decides
  induction count with
  | zero => rwa [pow_zero, one_mul]
  | succ count inductionHypothesis =>
    rw [pow_succ', mul_assoc]
    exact takes _ _ inductionHypothesis

/-- Rounds that are tried as often as possible take all that rounds can take.

    By induction on the room, for any place at which the round before began: it tells whether there
    may be a further round. -/
theorem Takes.asOften (takes : Takes run round) (decides : Decides following target)
    (room : Nat) (last : Option Nat) :
    Decides (Pattern.asOften run following room last) (afterRound round target room last) := by
  induction room generalizing last with
  | zero =>
    intro progress
    rw [Pattern.asOften, decides progress, mem_afterRound_zero]
  | succ room inductionHypothesis =>
    intro progress
    rw [Pattern.asOften]
    by_cases same : last = some progress.rest.length
    · rw [if_pos same, same, mem_afterRound_same]
      exact decides progress
    · have step := takes _ _ (inductionHypothesis (some progress.rest.length)) progress
      rw [if_neg same, mem_afterRound_other same, mem_rounds_succ_iff, ← step, ← decides progress]
      cases run (Pattern.asOften run following room (some progress.rest.length)) progress <;> simp

/-- So do rounds that are tried as seldom as possible, by the same induction. -/
theorem Takes.asSeldom (takes : Takes run round) (decides : Decides following target)
    (room : Nat) (last : Option Nat) :
    Decides (Pattern.asSeldom run following room last) (afterRound round target room last) := by
  induction room generalizing last with
  | zero =>
    intro progress
    rw [Pattern.asSeldom, decides progress, mem_afterRound_zero]
  | succ room inductionHypothesis =>
    intro progress
    rw [Pattern.asSeldom]
    by_cases same : last = some progress.rest.length
    · rw [same, mem_afterRound_same, ← decides progress]
      cases following progress <;> simp
    · have step := takes _ _ (inductionHypothesis (some progress.rest.length)) progress
      rw [mem_afterRound_other same, mem_rounds_succ_iff, ← step, ← decides progress]
      cases following progress <;> simp [same]

/-- What follows the rounds decides about the text behind them. -/
theorem Decides.beyond {rounds : Nat → Option Nat → Following}
    (decides : ∀ room last, Decides (rounds room last) (afterRound round target room last))
    (least : Nat) (most : Option Nat) :
    Decides (fun reached => rounds (roomFor least most reached) none reached)
      (Pattern.furtherRounds round least most * target) := by
  intro progress
  rw [decides, mem_afterRound_other (by simp), mem_furtherRounds_iff]

/-- A repetition takes the least number of rounds and then further ones, whichever number of them it
    tries first. -/
theorem Takes.repeatedly (takes : Takes run round) {greed : Greed} (several : greed ≠ .possessive)
    (least : Nat) (most : Option Nat) :
    Takes (Pattern.repeatedly run greed least most)
      (round ^ least * Pattern.furtherRounds round least most) := by
  intro following target decides progress
  rw [mul_assoc]
  cases greed with
  | most =>
    exact takes.times least _ _ (Decides.beyond (takes.asOften decides) least most) progress
  | fewest =>
    exact takes.times least _ _ (Decides.beyond (takes.asSeldom decides) least most) progress
  | possessive => exact absurd rfl several

end Repetitions

/-! ## Patterns -/

/-- A text that begins with a character of a set has it in front of the rest. -/
theorem mem_texts_mul_iff {set : CharacterSet} {target : Language Char} {text : List Char} :
    text ∈ set.texts * target ↔
      ∃ character rest, text = character :: rest ∧ set.contains character = true ∧
        rest ∈ target := by
  rw [Language.mem_mul]
  constructor
  · rintro ⟨front, ⟨character, member, rfl⟩, rest, later, rfl⟩
    exact ⟨character, rest, rfl, member, later⟩
  · rintro ⟨character, rest, rfl, member, later⟩
    exact ⟨[character], ⟨character, member, rfl⟩, rest, later, rfl⟩

/-- A set takes one of its characters. -/
theorem takes_one (set : CharacterSet) : Takes (Node.run (.one set)) set.texts := by
  intro following target decides progress
  rw [Node.run, Progress.take?, mem_texts_mul_iff]
  cases progress.rest with
  | nil => simp
  | cons character rest =>
    have taken := decides { progress with before := character :: progress.before, rest := rest }
    by_cases member : set.contains character = true <;> simp [member, taken]

/-- A regular pattern takes the texts that it describes, and after each of them leaves the rest to
    what follows. -/
theorem takes_run {node : Node} (regular : node.isRegular = true) :
    Takes node.run node.language := by
  induction node with
  | empty =>
    intro following target decides
    rwa [Node.language, one_mul]
  | never =>
    intro following target decides progress
    simp [Node.run, Node.language]
  | one set => exact takes_one set
  | sequence first second firstTakes secondTakes =>
    obtain ⟨front, back⟩ := Bool.and_eq_true_iff.mp regular
    intro following target decides
    rw [Node.language, mul_assoc]
    exact firstTakes front _ _ (secondTakes back _ _ decides)
  | choice first second firstTakes secondTakes =>
    obtain ⟨left, right⟩ := Bool.and_eq_true_iff.mp regular
    intro following target decides progress
    rw [Node.language, add_mul, Language.mem_add, ← firstTakes left _ _ decides progress,
      ← secondTakes right _ _ decides progress, Node.run]
    cases first.run following progress <;> simp
  | repetition greed least most body bodyTakes =>
    obtain ⟨several, inner⟩ := Bool.and_eq_true_iff.mp regular
    exact (bodyTakes inner).repeatedly (of_decide_eq_true several) least most
  | group number body bodyTakes =>
    intro following target decides
    cases number with
    | none => exact bodyTakes regular _ _ decides
    | some number =>
      intro progress
      refine bodyTakes regular _ target ?_ progress
      exact fun closed => decides _
  | anchor | atomic | ahead | behind | again | conditional => cases regular

/-- A regular pattern matches exactly the texts that it describes. -/
theorem matchesAll_iff {node : Node} (regular : node.isRegular = true) (text : List Char) :
    node.matchesAll text = true ↔ text ∈ node.language := by
  have atEnd_decides : Decides atEnd 1 := by
    intro progress
    rw [Language.mem_one, atEnd]
    cases progress.rest <;> simp
  rw [Node.matchesAll, takes_run regular _ _ atEnd_decides, mul_one, Progress.start]

/-! ## Compound patterns -/

/-- Parts in a row describe a text of the first with one of the others behind it. -/
theorem language_ofSequence_cons (node : Node) (rest : List Node) :
    (Node.ofSequence (node :: rest)).language =
      node.language * (Node.ofSequence rest).language := by
  cases rest with
  | nil => exact (mul_one _).symm
  | cons next others => rfl

/-- Alternatives describe the texts of the first and those of the others. -/
theorem language_ofChoices_cons (node : Node) (rest : List Node) :
    (Node.ofChoices (node :: rest)).language = node.language + (Node.ofChoices rest).language := by
  cases rest with
  | nil => exact (add_zero _).symm
  | cons next others => rfl

/-- Alternatives describe the texts of each of them. -/
theorem mem_ofChoices_iff {nodes : List Node} {text : List Char} :
    text ∈ (Node.ofChoices nodes).language ↔ ∃ node ∈ nodes, text ∈ node.language := by
  induction nodes with
  | nil => simp [Node.ofChoices, Node.language]
  | cons node rest inductionHypothesis =>
    rw [language_ofChoices_cons, Language.mem_add, inductionHypothesis]
    simp

/-- Sets in a row describe the texts with a character of each, in order. -/
theorem mem_ofSequence_iff {sets : List CharacterSet} {text : List Char} :
    text ∈ (Node.ofSequence (sets.map .one)).language ↔
      List.Forall₂ (fun set character => set.contains character = true) sets text := by
  induction sets generalizing text with
  | nil => exact (Language.mem_one text).trans List.forall₂_nil_left_iff.symm
  | cons set rest inductionHypothesis =>
    rw [List.map_cons, language_ofSequence_cons, Node.language, mem_texts_mul_iff,
      List.forall₂_cons_left_iff]
    simp only [inductionHypothesis]
    constructor
    · rintro ⟨character, others, rfl, member, later⟩
      exact ⟨character, others, member, later, rfl⟩
    · rintro ⟨character, others, member, later, rfl⟩
      exact ⟨character, others, rfl, member, later⟩

/-- A set any number of times describes the texts that consist of its characters. -/
theorem mem_kstar_texts_iff {set : CharacterSet} {text : List Char} :
    text ∈ set.texts∗ ↔ ∀ character ∈ text, set.contains character = true := by
  rw [Language.mem_kstar]
  constructor
  · rintro ⟨parts, rfl, single⟩ character inside
    obtain ⟨part, listed, within⟩ := List.mem_flatten.mp inside
    obtain ⟨only, member, rfl⟩ := single part listed
    rwa [List.mem_singleton.mp within]
  · intro members
    refine ⟨text.map List.singleton, ?_, ?_⟩
    · rw [← List.flatMap_def]
      exact (List.flatMap_singleton' text).symm
    · intro part listed
      obtain ⟨character, inside, rfl⟩ := List.mem_map.mp listed
      exact ⟨character, members character inside, rfl⟩

end LintReview.Pattern
