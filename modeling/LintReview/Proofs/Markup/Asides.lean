import LintReview.Markup.Document
import LintReview.Proofs.Markup.PrologFronts
import LintReview.Proofs.Markup.WrittenContent

/-!
# Comments and instructions in a document

A comment or an instruction may stand between any two tokens inside the element of a document.
The tokens before it are cut and read as they were, apart from places; it is one token itself
and leaves no trace; and the tokens after it are the same. So a document says the same with it
and without it (`read_insert`), and it is refused with it if it is refused without it.
-/

namespace LintReview.Markup

/-! ## Asides as they are written -/

/-- A comment or an instruction. -/
inductive IsAside : List Char → Prop where
  /-- No two hyphens stand in a row before the end of the comment. -/
  | comment {body : List Char} (allowed : ∀ character ∈ body, isCharacter character = true)
      (apart : ¬ ['-', '-'] <:+: body ++ ['-']) :
      IsAside ('<' :: '!' :: '-' :: '-' :: (body ++ ['-', '-', '>']))
  /-- The text of the instruction does not end it, and its target is not kept for declarations. -/
  | instruction {target body : List Char} (named : IsName target)
      (free : target.map Char.toLower ≠ declarationTarget)
      (allowed : ∀ character ∈ body, isCharacter character = true)
      (blank : body.head?.all isBlank = true) (inside : ¬ ['?', '>'] <:+: body) :
      IsAside ('<' :: '?' :: (target ++ body ++ ['?', '>']))

/-- A text without hyphens may stand in a comment. -/
theorem IsAside.comment_plain {body : List Char}
    (allowed : ∀ character ∈ body, isCharacter character = true) (plain : '-' ∉ body) :
    IsAside ('<' :: '!' :: '-' :: '-' :: (body ++ ['-', '-', '>'])) := by
  refine .comment allowed fun inside => ?_
  have twice := inside.sublist.count_le '-'
  rw [List.count_append, List.count_eq_zero.mpr plain] at twice
  exact absurd twice (by decide)

/-- A comment is read up to its end. -/
theorem commentBody_written {body : List Char}
    (allowed : ∀ character ∈ body, isCharacter character = true)
    (apart : ¬ ['-', '-'] <:+: body ++ ['-']) (ending : List Char) :
    commentBody (body ++ '-' :: '-' :: '>' :: ending) = .ok ending := by
  induction body with
  | nil => rfl
  | cons character rest inductionHypothesis =>
    rw [List.forall_mem_cons] at allowed
    have later := inductionHypothesis allowed.2 fun inside =>
      apart (inside.trans (List.suffix_cons character _).isInfix)
    have next : character = '-' → ∀ more, rest ++ '-' :: '-' :: '>' :: ending ≠ '-' :: more := by
      rintro rfl more same
      apply apart
      cases rest with
      | nil => exact List.infix_rfl
      | cons second rest =>
        obtain rfl := (List.cons.inj same).1
        exact (List.prefix_append ['-', '-'] _).isInfix
    rw [List.cons_append, commentBody, if_pos allowed.1, later]
    · exact fun first => next first _
    · exact fun more first => next first _
    · exact fun here first => next first _

/-- An instruction is read up to its end. -/
theorem instructionBody_written {body : List Char}
    (allowed : ∀ character ∈ body, isCharacter character = true)
    (inside : ¬ ['?', '>'] <:+: body) (ending : List Char) :
    instructionBody (body ++ '?' :: '>' :: ending) = .ok (body, ending) := by
  induction body with
  | nil => rfl
  | cons character rest inductionHypothesis =>
    rw [List.forall_mem_cons] at allowed
    have later := inductionHypothesis allowed.2 fun found =>
      inside (found.trans (List.suffix_cons character _).isInfix)
    rw [List.cons_append, instructionBody, if_pos allowed.1, later]
    rintro more rfl same
    apply inside
    cases rest with
    | nil => cases same
    | cons second rest =>
      obtain rfl := (List.cons.inj same).1
      exact (List.prefix_append ['?', '>'] _).isInfix

/-- A blank stands in no name. -/
theorem isNameCharacter_of_isBlank {character : Char} (blank : isBlank character = true) :
    isNameCharacter character = false := by
  simp only [isBlank, Bool.or_eq_true, decide_eq_true_eq] at blank
  rcases blank with ((rfl | rfl) | rfl) | rfl <;> decide

/-- What stands behind a target is read up to the end of the instruction. -/
theorem afterTarget_written {target body : List Char}
    (free : target.map Char.toLower ≠ declarationTarget)
    (allowed : ∀ character ∈ body, isCharacter character = true)
    (blank : body.head?.all isBlank = true) (inside : ¬ ['?', '>'] <:+: body) (ending : List Char) :
    afterTarget target (body ++ '?' :: '>' :: ending) = .ok (⟨target, body⟩, ending) := by
  have cased : ¬ isMiscasedTarget target = true := by
    rw [isMiscasedTarget, decide_eq_false free, Bool.false_and]
    exact Bool.false_ne_true
  cases body with
  | nil =>
    rw [List.nil_append, afterTarget, if_pos (by decide), if_neg cased, if_neg (by decide)]
  | cons first body =>
    replace blank : isBlank first = true := by simpa using blank
    rw [List.forall_mem_cons] at allowed
    have rest := instructionBody_written allowed.2
      (fun found => inside (found.trans (List.suffix_cons first _).isInfix)) ending
    have ends : (isBlank first || decide (first = '?')) = true := by rw [blank, Bool.true_or]
    rw [List.cons_append]
    unfold afterTarget
    dsimp only
    rw [if_pos ends, if_neg cased, if_pos blank, rest]

/-- An instruction is read with its target and its text. -/
theorem instruction_written {target body : List Char} (named : IsName target)
    (free : target.map Char.toLower ≠ declarationTarget)
    (allowed : ∀ character ∈ body, isCharacter character = true)
    (blank : body.head?.all isBlank = true) (inside : ¬ ['?', '>'] <:+: body) (ending : List Char) :
    instruction (target ++ (body ++ '?' :: '>' :: ending)) = .ok (⟨target, body⟩, ending) := by
  have stops : ∃ stop rest, body ++ '?' :: '>' :: ending = stop :: rest ∧
      isNameCharacter stop = false := by
    cases body with
    | nil => exact ⟨'?', _, rfl, by decide⟩
    | cons first body => exact ⟨first, _, rfl, isNameCharacter_of_isBlank (by simpa using blank)⟩
  obtain ⟨stop, rest, form, outside⟩ := stops
  obtain ⟨before, behind⟩ := cut_name named.2 outside rest
  rw [← form] at before behind
  obtain ⟨first, more, rfl, starts⟩ := named.1
  rw [List.cons_append] at before behind ⊢
  rw [instruction, if_pos starts, before, behind]
  exact afterTarget_written free allowed blank inside ending

/-- An aside is read up to its end, whatever stands behind it. -/
theorem IsAside.cut {aside : List Char} (isAside : IsAside aside) (ending : List Char) :
    ∃ more, aside ++ ending = '<' :: more ∧ token '<' more = .ok (.aside, ending) := by
  have angle (more : List Char) : token '<' more = angled more := if_pos rfl
  cases isAside with
  | @comment body allowed apart =>
    refine ⟨'!' :: '-' :: '-' :: (body ++ '-' :: '-' :: '>' :: ending), by simp, ?_⟩
    rw [angle, angled, contentComment, Markup.comment, commentBody_written allowed apart]
  | @instruction target body named free allowed blank inside =>
    refine ⟨'?' :: (target ++ (body ++ '?' :: '>' :: ending)), by simp, ?_⟩
    have undeclaring : ¬ (⟨target, body⟩ : Instruction).isDeclaration = true := by
      intro declares
      rw [Instruction.isDeclaration, decide_eq_true_eq] at declares
      exact free ((congrArg (List.map Char.toLower) declares).trans (by decide))
    rw [angle, angled, contentInstruction, instruction_written named free allowed blank inside]
    dsimp only
    rw [if_neg undeclaring]

/-! ## Tokens in front of others -/

/-- Some tokens, cut off from the front of a text. -/
inductive Cut : List Char → List Lexeme → List Char → Prop where
  | nothing (text : List Char) : Cut text [] text
  | further {first : Char} {rest after ending : List Char} {found : Token} {items : List Lexeme}
      (read : token first rest = .ok (found, after)) (later : Cut after items ending) :
      Cut (first :: rest) (⟨found, first :: rest, after⟩ :: items) ending

/-- Cutting goes on behind them. -/
theorem Cut.lexemes_eq {text ending : List Char} {items : List Lexeme}
    (cut : Cut text items ending) :
    lexemes text = ⟨items ++ (lexemes ending).items, (lexemes ending).failure⟩ := by
  induction cut with
  | nothing => rfl
  | further read later inductionHypothesis =>
    rw [lexemes_cons read, inductionHypothesis]
    rfl

/-- Tokens behind tokens. -/
theorem Cut.trans {text middle ending : List Char} {items others : List Lexeme}
    (cut : Cut text items middle) (onward : Cut middle others ending) :
    Cut text (items ++ others) ending := by
  induction cut with
  | nothing => exact onward
  | further read _ inductionHypothesis => exact .further read (inductionHypothesis onward)

/-- Nothing new stands in a longer text either. -/
theorem NoMore.append (front : List Char) {rest other : List Char} (near : NoMore rest other) :
    NoMore (front ++ rest) (front ++ other) := by
  intro start noTag before
  rcases List.prefix_or_prefix_of_prefix before (List.prefix_append front other) with
    inside | ⟨more, rfl⟩
  · exact List.prefix_append_of_prefix inside
  · rw [List.prefix_append_right_inj] at before ⊢
    exact near more (fun tag => noTag (List.mem_append_right front tag)) before

/-- Nothing new begins in front of a tag. -/
theorem NoMore.angle (rest more : List Char) : NoMore rest ('<' :: more) := by
  intro start noTag before
  cases start with
  | nil => exact List.nil_prefix
  | cons first start =>
    obtain ⟨rfl, -⟩ := List.cons_prefix_cons.mp before
    exact (noTag List.mem_cons_self).elim

/-- The same tokens, apart from places, are cut off in front of another text. -/
theorem Cut.moved {text ending : List Char} {items : List Lexeme} (cut : Cut text items ending) :
    ∃ taken, text = taken ++ ending ∧ ∀ other, NoMore ending other → ∃ others,
      Cut (taken ++ other) others other ∧
        items.map (·.token.bare) = others.map (·.token.bare) := by
  induction cut with
  | nothing text => exact ⟨[], rfl, fun other _ => ⟨[], .nothing other, rfl⟩⟩
  | @further first rest after ending found items read later inductionHypothesis =>
    obtain ⟨taken, rfl, alike⟩ := inductionHypothesis
    obtain ⟨front, rfl, same⟩ := token_local first read
    refine ⟨first :: (front ++ taken), by simp, fun other near => ?_⟩
    obtain ⟨others, onward, bare⟩ := alike other near
    obtain ⟨again, reread, sameToken⟩ := same (taken ++ other) (near.append taken)
    refine ⟨⟨again, first :: (front ++ (taken ++ other)), taken ++ other⟩ :: others, ?_, ?_⟩
    · rw [List.cons_append, List.append_assoc]
      exact .further reread onward
    · rw [List.map_cons, List.map_cons, bare, sameToken]

/-- An aside is one token. -/
theorem IsAside.cut_single {aside : List Char} (isAside : IsAside aside) (ending : List Char) :
    ∃ lexeme, lexeme.token = .aside ∧ Cut (aside ++ ending) [lexeme] ending := by
  obtain ⟨more, form, read⟩ := isAside.cut ending
  rw [form]
  exact ⟨_, rfl, .further read (.nothing ending)⟩

/-- An aside begins as a tag does. -/
theorem IsAside.noMore {aside : List Char} (isAside : IsAside aside) {rest ending : List Char} :
    NoMore rest (aside ++ ending) := by
  obtain ⟨more, form, -⟩ := isAside.cut ending
  rw [form]
  exact .angle rest more

/-! ## Open elements -/

/-- The tokens leave elements open. -/
def LeavesOpen (definitions : Definitions) (items : List Lexeme) (frames : List Frame) : Prop :=
  definitions.read definitions.entities.length [] 0 [] items = .ok (.unfinished frames)

/-- Where the same elements are open and the same text goes on, the same element is read. -/
theorem readElement_cut (definitions : Definitions) {text other ending : List Char}
    {items others : List Lexeme} {frames : List Frame} (cut : Cut text items ending)
    (again : Cut other others ending)
    (opens : LeavesOpen definitions items frames) (reopens : LeavesOpen definitions others frames) :
    Agree (definitions.readElement text) (definitions.readElement other) := by
  unfold LeavesOpen at opens reopens
  unfold Definitions.readElement
  rw [cut.lexemes_eq, again.lexemes_eq]
  dsimp only
  rw [read_append opens, read_append reopens]
  split
  · exact .failed _ _
  · exact .given _
  · exact .failed _ _

/-- Elements are open between two texts: the element of the document has begun in the first one, a
token ends there, and the outermost element is not closed. -/
def IsOpenBetween (before ending : List Char) : Prop :=
  ∃ definitions fromElement items frames,
    Prolog.read (before ++ ending) = .ok (definitions, fromElement) ∧
      Cut fromElement items ending ∧ LeavesOpen definitions items frames ∧ frames ≠ []

/-- The first token of an element takes its bracket and the first character of its name. -/
theorem Cut.begins {text ending taken : List Char} {first : Char} {items : List Lexeme}
    (cut : Cut ('<' :: first :: text) items ending) (nonempty : items ≠ [])
    (whole : '<' :: first :: text = taken ++ ending) : ∃ more, taken = '<' :: first :: more := by
  have shorter : ending.length + 2 ≤ ('<' :: first :: text).length := by
    cases cut with
    | nothing => exact (nonempty rfl).elim
    | @further _ _ after _ found items read later =>
      have angle : token '<' (first :: text) = angled (first :: text) := if_pos rfl
      have strictly := length_angled (angle.symm.trans read)
      obtain ⟨front, rfl, -⟩ := later.moved
      simp only [List.length_cons, List.length_append] at strictly ⊢
      omega
  match taken with
  | [] =>
    rw [whole, List.nil_append] at shorter
    omega
  | [_] =>
    rw [whole, List.length_append, List.length_singleton] at shorter
    omega
  | one :: two :: more =>
    obtain ⟨bracket, behind⟩ := List.cons.inj whole
    obtain ⟨letter, -⟩ := List.cons.inj behind
    exact ⟨more, by rw [bracket, letter]⟩

/-- A comment or an instruction between two tokens does not change what a document holds. -/
theorem readMarked_aside {before ending aside : List Char} (opened : IsOpenBetween before ending)
    (isAside : IsAside aside) :
    Agree (readMarked (before ++ ending)) (readMarked (before ++ (aside ++ ending))) := by
  obtain ⟨definitions, fromElement, items, frames, prolog, cut, opens, isOpen⟩ := opened
  obtain ⟨front, whole, first, rest, rfl, alike⟩ := Prolog.read_local prolog
  obtain ⟨taken, left, same⟩ := cut.moved
  have nonempty : items ≠ [] := by
    rintro rfl
    rw [LeavesOpen, Definitions.read] at opens
    exact isOpen (Reading.unfinished.inj (Except.ok.inj opens)).symm
  obtain ⟨more, rfl⟩ := cut.begins nonempty left
  obtain rfl : before = front ++ '<' :: first :: more := by
    rw [left, ← List.append_assoc] at whole
    exact List.append_cancel_right whole
  -- the tokens in front are cut in the same way in front of the aside
  obtain ⟨others, again, bare⟩ := same (aside ++ ending) isAside.noMore
  obtain ⟨lexeme, isAsideToken, inserted⟩ := isAside.cut_single ending
  have moved : Cut ('<' :: first :: more ++ (aside ++ ending)) (others ++ [lexeme]) ending :=
    again.trans inserted
  have reopens : LeavesOpen definitions (others ++ [lexeme]) frames := by
    rw [LeavesOpen, read_append (read_unfinished bare opens),
      read_aside definitions _ _ _ _ isAsideToken, Definitions.read]
  have elements := readElement_cut definitions cut moved opens reopens
  have reread := alike (more ++ (aside ++ ending))
  have form : front ++ '<' :: first :: more ++ (aside ++ ending) =
      front ++ '<' :: first :: (more ++ (aside ++ ending)) := by simp
  unfold readMarked
  rw [form, prolog, reread]
  rw [List.cons_append, List.cons_append] at elements
  dsimp only
  generalize definitions.readElement ('<' :: first :: rest) = one at *
  generalize definitions.readElement ('<' :: first :: (more ++ (aside ++ ending))) = two at *
  cases elements with
  | failed => exact .failed _ _
  | given => exact Agree.refl _

/-! ## Whole documents -/

/-- A text without the byte order mark that may stand in front. -/
def unmarked : List Char → List Char
  | '\ufeff' :: rest => rest
  | text => text

/-- The text of a document, as it is read. -/
def documentText (text : List Char) : List Char :=
  unmarked (repaired text)

/-- A document is read from that text. -/
theorem read_agree (text : List Char) :
    Agree (Markup.read text) (readMarked (documentText text)) := by
  have located (result : Except Failure Element) (whole : List Char) :
      Agree (result.mapError (·, whole)) result := by
    cases result with
    | error => exact .failed _ _
    | ok => exact .given _
  by_cases zero : text = ['\x00']
  · subst zero
    exact .failed _ _
  · have same : Markup.read text =
        (readMarked (documentText text)).mapError (·, repaired text) := by
      unfold Markup.read documentText
      dsimp only
      generalize repaired text = whole
      split
      · exact (zero rfl).elim
      · rfl
      · next unmarkedText =>
        rw [unmarked]
        exact unmarkedText
    rw [same]
    exact located _ _

/-- What a document holds does not change by a comment or an instruction inside its element. -/
theorem read_insert {text other before ending aside : List Char} (isAside : IsAside aside)
    (opened : IsOpenBetween before ending) (whole : documentText text = before ++ ending)
    (inserted : documentText other = before ++ (aside ++ ending)) :
    Agree (Markup.read text) (Markup.read other) := by
  have first := read_agree text
  have second := read_agree other
  rw [whole] at first
  rw [inserted] at second
  exact (first.trans (readMarked_aside opened isAside)).trans second.symm

end LintReview.Markup
