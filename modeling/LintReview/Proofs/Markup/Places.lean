import LintReview.Markup.Content
import Mathlib.Data.List.Basic

/-!
# Places in a document

Tokens hold the texts from which they were read, so that a failure can be located. What a
document says does not depend on them: where the same tokens stand in other places, the same
elements are opened and closed, or a failure of the same token is reported from elsewhere. So
elements that some tokens leave open are left open by these tokens anywhere
(`read_unfinished`), and reading goes on behind them (`read_append`).
-/

namespace LintReview.Markup

/-! ## Without places -/

/-- A part of a value without its place. -/
def Piece.bare : Piece → Piece
  | .character value => .character value
  | .reference target _ => .reference target []

/-- An attribute without its place. -/
def AttributeText.bare (entry : AttributeText) : AttributeText :=
  ⟨entry.name, [], entry.value.map Piece.bare⟩

/-- The attributes of a tag without their places. -/
def TagEnd.bare (ending : TagEnd) : TagEnd :=
  ⟨ending.attributes.map AttributeText.bare, ending.closed⟩

/-- A token without the places of its attributes. -/
def Token.bare : Token → Token
  | .opening name ending => .opening name ending.bare
  | token => token

/-- Two computations fail both, or have the same result. -/
inductive Agree {α β γ : Type} : Except α γ → Except β γ → Prop where
  | failed (cause : α) (other : β) : Agree (.error cause) (.error other)
  | given (value : γ) : Agree (.ok value) (.ok value)

/-- A computation agrees with itself. -/
theorem Agree.refl {α γ : Type} (result : Except α γ) : Agree result result := by
  cases result with
  | error cause => exact .failed cause cause
  | ok value => exact .given value

/-- What one gives, the other gives. -/
theorem Agree.eq_ok {α β γ : Type} {first : Except α γ} {second : Except β γ} {value : γ}
    (agree : Agree first second) (given : first = .ok value) : second = .ok value := by
  subst given
  cases agree
  rfl

/-- Agreement goes from one to the next. -/
theorem Agree.trans {α β γ δ : Type} {first : Except α δ} {second : Except β δ}
    {third : Except γ δ} (one : Agree first second) (two : Agree second third) :
    Agree first third := by
  cases one with
  | failed =>
    cases two
    exact .failed _ _
  | given =>
    cases two
    exact .given _

/-- Agreement goes both ways. -/
theorem Agree.symm {α β γ : Type} {first : Except α γ} {second : Except β γ}
    (agree : Agree first second) : Agree second first := by
  cases agree with
  | failed => exact .failed _ _
  | given => exact .given _

/-- Results are changed in the same way. -/
theorem Agree.map {α β γ δ : Type} {first : Except α γ} {second : Except β γ}
    (agree : Agree first second) (change : γ → δ) :
    Agree (first.map change) (second.map change) := by
  cases agree with
  | failed => exact .failed _ _
  | given => exact .given _

/-- Failures may be put into any form. -/
theorem Agree.mapError {α β γ δ ε : Type} {first : Except α γ} {second : Except β γ}
    (agree : Agree first second) (change : α → δ) (other : β → ε) :
    Agree (first.mapError change) (second.mapError other) := by
  cases agree with
  | failed => exact .failed _ _
  | given => exact .given _

/-- What agrees is followed by what agrees. -/
theorem Agree.bind {α β γ δ : Type} {first : Except α γ} {second : Except β γ}
    {next : γ → Except α δ} {other : γ → Except β δ} (agree : Agree first second)
    (onward : ∀ value, Agree (next value) (other value)) :
    Agree (first >>= next) (second >>= other) := by
  cases agree with
  | failed => exact .failed _ _
  | given value => exact onward value

/-! ## Attributes and start tags -/

/-- The text of a value does not depend on where its references stand. -/
theorem replace_bare (definitions : Definitions) (depth : Nat) (inside : List (List Char))
    (value : List Piece) :
    Agree (definitions.replace depth inside (value.map Piece.bare))
      (definitions.replace depth inside value) := by
  induction value with
  | nil =>
    rw [List.map_nil]
    exact Agree.refl _
  | cons piece rest inductionHypothesis =>
    obtain value | ⟨code | name, here⟩ := piece
    · rw [List.map_cons, Piece.bare, Definitions.replace, Definitions.replace]
      exact inductionHypothesis.casesOn (fun _ _ => .failed _ _) (fun _ => .given _)
    · rw [List.map_cons, Piece.bare, Definitions.replace, Definitions.replace]
      cases characterOfCode? code with
      | none => exact .failed _ _
      | some value => exact inductionHypothesis.casesOn (fun _ _ => .failed _ _) (fun _ => .given _)
    · rw [List.map_cons, Piece.bare, Definitions.replace, Definitions.replace]
      cases predefined? name with
      | some value => exact inductionHypothesis.casesOn (fun _ _ => .failed _ _) (fun _ => .given _)
      | none =>
        cases definitions.entity? name with
        | none =>
          cases definitions.isComplete with
          | true => exact .failed _ _
          | false => exact inductionHypothesis.casesOn (fun _ _ => .failed _ _) (fun _ => .given _)
        | some entity =>
          cases Text.isOneOf inside name with
          | true => exact .failed _ _
          | false =>
            cases entity with
            | external => exact .failed _ _
            | unparsed => exact .failed _ _
            | text written =>
              cases depth with
              | zero => exact .failed _ _
              | succ depth =>
                dsimp only
                generalize pieces none written = inner
                rcases inner with _ | ⟨inner, _⟩
                · exact .failed _ _
                · dsimp only
                  generalize definitions.replace depth (name :: inside) inner = replaced
                  cases replaced with
                  | error problem => exact .failed _ _
                  | ok front =>
                    exact inductionHypothesis.casesOn (fun _ _ => .failed _ _) (fun _ => .given _)

/-- Nor does the value. -/
theorem value_bare (definitions : Definitions) (inside : List (List Char)) (isText : Bool)
    (written : List Piece) :
    Agree (definitions.value inside isText (written.map Piece.bare))
      (definitions.value inside isText written) :=
  (replace_bare definitions _ inside written).map _

/-- An attribute is refused wherever the tag stands. -/
theorem Assignment.check_agree (assignment : Assignment) (start other : List Char) :
    Agree (assignment.check start) (assignment.check other) := by
  unfold Assignment.check
  split
  · exact .given ()
  · split
    · exact .failed _ _
    · exact .given ()

/-- Reading the attributes of a tag does not depend on where the tag stands. -/
theorem assignments_bare (definitions : Definitions) (inside : List (List Char))
    (element start other : List Char) (known : List Assignment) (entries : List AttributeText) :
    Agree (definitions.assignments inside element start known (entries.map AttributeText.bare))
      (definitions.assignments inside element other known entries) := by
  induction entries generalizing known with
  | nil => exact .given known
  | cons entry rest inductionHypothesis =>
    rw [List.map_cons, Definitions.assignments, Definitions.assignments, AttributeText.bare]
    by_cases twice : known.any (·.name = entry.name) = true
    · rw [if_pos twice, if_pos twice]
      exact .failed _ _
    · rw [if_neg twice, if_neg twice]
      refine Agree.bind ((value_bare definitions inside _ entry.value).mapError _ _) fun value => ?_
      refine Agree.bind (Assignment.check_agree _ start other) fun _ => ?_
      exact inductionHypothesis _

/-- The default values are added wherever the tag stands. -/
theorem addDefaults_agree (element start other : List Char) (known : List Assignment)
    (defined : List AttributeDefinition) :
    Agree (addDefaults element start known defined) (addDefaults element other known defined) := by
  induction defined generalizing known with
  | nil => exact .given known
  | cons definition rest inductionHypothesis =>
    rw [addDefaults, addDefaults]
    cases definition.value with
    | none => exact inductionHypothesis known
    | some value =>
      dsimp only
      split
      · exact inductionHypothesis known
      · refine Agree.bind (Assignment.check_agree _ start other) fun _ => ?_
        exact inductionHypothesis _

/-- The names are found wherever the tag stands. -/
theorem nameAttributes_agree (bindings : Bindings) (start other : List Char)
    (known : List Attribute) (assignments : List Assignment) :
    Agree (nameAttributes bindings start known assignments)
      (nameAttributes bindings other known assignments) := by
  induction assignments generalizing known with
  | nil => exact .given known
  | cons assignment rest inductionHypothesis =>
    rw [nameAttributes, nameAttributes]
    split
    · exact inductionHypothesis known
    · split
      · exact .failed _ _
      · split
        · exact .failed _ _
        · exact inductionHypothesis _

/-- A start tag opens the same element in every place. -/
theorem openElement_bare (definitions : Definitions) (inside : List (List Char))
    (outer : Bindings) (start other : List Char) (name : QualifiedName) (ending : TagEnd) :
    Agree (definitions.openElement inside outer start name ending.bare)
      (definitions.openElement inside outer other name ending) := by
  unfold Definitions.openElement
  refine Agree.bind (assignments_bare definitions inside _ start other [] _) fun given => ?_
  refine Agree.bind (addDefaults_agree _ start other given _) fun all => ?_
  refine Agree.bind (nameAttributes_agree _ start other [] all) fun attributes => ?_
  split
  · exact .failed _ _
  · exact .given _

/-! ## One token -/

/-- Tokens that are the same apart from places are the same, or they open the same element. -/
theorem Token.bare_eq {token other : Token} (same : token.bare = other.bare) :
    token = other ∨ ∃ name ending stop, token = .opening name ending ∧ other = .opening name stop ∧
      ending.bare = stop.bare := by
  cases token with
  | opening name ending =>
    cases other with
    | opening known stop =>
      obtain ⟨rfl, bare⟩ := Token.opening.inj same
      exact .inr ⟨name, ending, stop, rfl, rfl, bare⟩
    | _ => cases same
  | _ =>
    cases other with
    | opening => cases same
    | _ => exact .inl same

/-- A reading without what stands behind it. -/
def Reading.bare : Reading → Reading
  | .unfinished frames => .unfinished frames
  | .finished element _ => .finished element []

/-- What stands behind an element does not matter to it. -/
theorem closeElement_bare (after other : List Char) (frames : List Frame) :
    (closeElement after frames).bare = (closeElement other frames).bare := by
  match frames with
  | [] => rfl
  | [_] => rfl
  | _ :: _ :: _ => rfl

/-- A start tag is taken up in the same way in every place. -/
theorem take_opening_bare (definitions : Definitions) (inside : List (List Char)) (base : Nat)
    (frames : List Frame) {lexeme other : Lexeme} {name : QualifiedName} {ending stop : TagEnd}
    (first : lexeme.token = .opening name ending) (second : other.token = .opening name stop)
    (same : ending.bare = stop.bare) :
    Agree ((definitions.take inside base frames lexeme).map Reading.bare)
      ((definitions.take inside base frames other).map Reading.bare) := by
  have closed : ending.closed = stop.closed := (TagEnd.mk.inj same).2
  have opened : Agree (definitions.openElement inside (bindingsOf frames) lexeme.here name ending)
      (definitions.openElement inside (bindingsOf frames) other.here name stop) := by
    have bare := openElement_bare definitions inside (bindingsOf frames)
    exact (bare [] lexeme.here name ending).symm.trans (same ▸ bare [] other.here name stop)
  rw [Definitions.take, Definitions.take, first, second]
  dsimp only
  rw [closed]
  generalize definitions.openElement inside (bindingsOf frames) lexeme.here name ending = one at *
  generalize definitions.openElement inside (bindingsOf frames) other.here name stop = two at *
  cases opened with
  | failed => exact .failed _ _
  | given frame =>
    cases stop.closed with
    | false => exact .given _
    | true =>
      change Agree (.ok (closeElement lexeme.after (frame :: frames)).bare)
        (.ok (closeElement other.after (frame :: frames)).bare)
      rw [closeElement_bare lexeme.after other.after]
      exact .given _

/-- So is every token that is no reference to an entity. -/
theorem take_bare (definitions : Definitions) (inside : List (List Char)) (base : Nat)
    (frames : List Frame) {lexeme other : Lexeme} (same : lexeme.token.bare = other.token.bare) :
    Agree ((definitions.take inside base frames lexeme).map Reading.bare)
      ((definitions.take inside base frames other).map Reading.bare) := by
  rcases Token.bare_eq same with token | ⟨name, ending, stop, first, second, bare⟩
  · cases second : other.token with
    | opening name ending =>
      exact take_opening_bare definitions inside base frames (token.trans second) second rfl
    | character | literal | aside =>
      rw [Definitions.take, Definitions.take, token, second]
      exact .given _
    | reference target =>
      rw [Definitions.take, Definitions.take, token, second]
      cases target with
      | entity => exact .given _
      | number code =>
        dsimp only
        cases characterOfCode? code with
        | none => exact .failed _ _
        | some => exact .given _
    | closing name =>
      rw [Definitions.take, Definitions.take, token, second]
      dsimp only
      split
      · exact .failed _ _
      · cases frames with
        | nil => exact .failed _ _
        | cons frame outer =>
          dsimp only
          split
          · change Agree (.ok (closeElement lexeme.after (frame :: outer)).bare)
              (.ok (closeElement other.after (frame :: outer)).bare)
            rw [closeElement_bare lexeme.after other.after]
            exact .given _
          · exact .failed _ _
  · exact take_opening_bare definitions inside base frames first second bare

/-- The open elements after a reference to an entity that begins at `here`. -/
def Definitions.enter (definitions : Definitions) (depth : Nat) (inside : List (List Char))
    (frames : List Frame) (name here : List Char) : Except Failure (List Frame) :=
  match predefined? name with
  | some value => .ok (addNode (.character value) frames)
  | none =>
    match definitions.entity? name with
    | none =>
      let cause := if definitions.isComplete then .undefinedEntity else .unknownEntity name
      .error ⟨cause, here⟩
    | some entity =>
      if Text.isOneOf inside name then .error ⟨.recursiveReference, here⟩
      else
        match entity, depth with
        | .unparsed, _ => .error ⟨.binaryReference, here⟩
        | .external, _ => .error ⟨.unknownEntity name, here⟩
        | .text _, 0 => .error ⟨.recursiveReference, here⟩
        | .text value, depth + 1 =>
          let found := lexemes value
          match definitions.read depth (name :: inside) frames.length frames found.items with
          | .error failure => .error ⟨failure.cause, here⟩
          | .ok (.finished _ _) => .error ⟨.asynchronousEntity, here⟩
          | .ok (.unfinished inner) =>
            match found.failure with
            | some failure => .error ⟨failure.cause, here⟩
            | none =>
              if inner.length = frames.length then .ok inner
              else .error ⟨.asynchronousEntity, here⟩

/-- What one token leads to. -/
def Definitions.step (definitions : Definitions) (depth : Nat) (inside : List (List Char))
    (base : Nat) (frames : List Frame) (lexeme : Lexeme) : Except Failure Reading :=
  match lexeme.token with
  | .reference (.entity name) =>
    (definitions.enter depth inside frames name lexeme.here).map .unfinished
  | _ => definitions.take inside base frames lexeme

/-- A reference to an entity leads to the text of the entity. -/
theorem step_entity (definitions : Definitions) (depth : Nat) (inside : List (List Char))
    (base : Nat) (frames : List Frame) {lexeme : Lexeme} {name : List Char}
    (named : lexeme.token = .reference (.entity name)) :
    definitions.step depth inside base frames lexeme =
      (definitions.enter depth inside frames name lexeme.here).map .unfinished := by
  rw [Definitions.step, named]

/-- Any other token is taken up. -/
theorem step_take (definitions : Definitions) (depth : Nat) (inside : List (List Char))
    (base : Nat) (frames : List Frame) {lexeme : Lexeme}
    (other : ∀ name, lexeme.token ≠ .reference (.entity name)) :
    definitions.step depth inside base frames lexeme =
      definitions.take inside base frames lexeme := by
  rw [Definitions.step]
  split
  · next name same => exact (other name same).elim
  · rfl

/-- What follows a token, if it leaves elements open. -/
def onward (next : List Frame → Except Failure Reading) :
    Except Failure Reading → Except Failure Reading
  | .error failure => .error failure
  | .ok (.finished element after) => .ok (.finished element after)
  | .ok (.unfinished frames) => next frames

/-- Reading goes on behind a token that leaves elements open. -/
theorem read_cons (definitions : Definitions) (depth : Nat) (inside : List (List Char))
    (base : Nat) (frames : List Frame) (lexeme : Lexeme) (rest : List Lexeme) :
    definitions.read depth inside base frames (lexeme :: rest) =
      onward (fun next => definitions.read depth inside base next rest)
        (definitions.step depth inside base frames lexeme) := by
  rw [Definitions.read]
  split
  · next name named =>
    rw [step_entity definitions depth inside base frames named]
    unfold Definitions.enter
    cases predefined? name with
    | some value => rfl
    | none =>
      cases definitions.entity? name with
      | none => rfl
      | some entity =>
        cases Text.isOneOf inside name with
        | true => rfl
        | false =>
          cases entity with
          | external => rfl
          | unparsed => rfl
          | text value =>
            cases depth with
            | zero => rfl
            | succ depth =>
              dsimp only
              cases definitions.read depth (name :: inside) frames.length frames
                (lexemes value).items with
              | error failure => rfl
              | ok reading =>
                cases reading with
                | finished element after => rfl
                | unfinished inner =>
                  cases (lexemes value).failure with
                  | some failure => rfl
                  | none =>
                    by_cases closed : inner.length = frames.length
                    · simp only [if_pos closed]
                      rfl
                    · simp only [if_neg closed]
                      rfl
  · next other =>
    exact congrArg (onward fun next => definitions.read depth inside base next rest)
      (step_take definitions depth inside base frames other).symm

/-- The text of an entity is entered wherever the reference stands. -/
theorem enter_agree (definitions : Definitions) (depth : Nat) (inside : List (List Char))
    (frames : List Frame) (name here other : List Char) :
    Agree (definitions.enter depth inside frames name here)
      (definitions.enter depth inside frames name other) := by
  unfold Definitions.enter
  split
  · exact .given _
  · split
    · exact .failed _ _
    · split
      · exact .failed _ _
      · split
        · exact .failed _ _
        · exact .failed _ _
        · exact .failed _ _
        · dsimp only
          split
          · exact .failed _ _
          · exact .failed _ _
          · split
            · exact .failed _ _
            · split
              · exact .given _
              · exact .failed _ _

/-- Every token leads to the same in every place. -/
theorem step_bare (definitions : Definitions) (depth : Nat) (inside : List (List Char))
    (base : Nat) (frames : List Frame) {lexeme other : Lexeme}
    (same : lexeme.token.bare = other.token.bare) :
    Agree ((definitions.step depth inside base frames lexeme).map Reading.bare)
      ((definitions.step depth inside base frames other).map Reading.bare) := by
  by_cases named : ∃ name, lexeme.token = .reference (.entity name)
  · obtain ⟨name, first⟩ := named
    have second : other.token = .reference (.entity name) := by
      rcases Token.bare_eq same with token | ⟨_, _, _, opened, -⟩
      · rw [← token, first]
      · rw [first] at opened
        cases opened
    rw [step_entity definitions depth inside base frames first,
      step_entity definitions depth inside base frames second]
    exact ((enter_agree definitions depth inside frames name _ _).map _).map _
  · have first : ∀ name, lexeme.token ≠ .reference (.entity name) :=
      fun name token => named ⟨name, token⟩
    have second : ∀ name, other.token ≠ .reference (.entity name) := by
      intro name token
      rcases Token.bare_eq same with equal | ⟨_, _, _, -, opened, -⟩
      · exact first name (equal.trans token)
      · rw [token] at opened
        cases opened
    rw [step_take definitions depth inside base frames first,
      step_take definitions depth inside base frames second]
    exact take_bare definitions inside base frames same

/-- If a token leaves elements open, so does the token in another place. -/
theorem step_unfinished {definitions : Definitions} {depth base : Nat} {inside : List (List Char)}
    {frames next : List Frame} {lexeme other : Lexeme}
    (same : lexeme.token.bare = other.token.bare)
    (stepped : definitions.step depth inside base frames lexeme = .ok (.unfinished next)) :
    definitions.step depth inside base frames other = .ok (.unfinished next) := by
  have agree := step_bare definitions depth inside base frames same
  rw [stepped] at agree
  have given := agree.eq_ok rfl
  rcases result : definitions.step depth inside base frames other with failure | reading
  · rw [result] at given
    cases given
  · rw [result] at given
    have bare : reading.bare = .unfinished next := Except.ok.inj given
    cases reading with
    | unfinished => rw [← bare]; rfl
    | finished => cases bare

/-! ## Tokens one after the other -/

/-- Behind a token that leaves elements open, reading goes on with these. -/
theorem read_of_step {definitions : Definitions} {depth base : Nat} {inside : List (List Char)}
    {frames next : List Frame} {lexeme : Lexeme}
    (stepped : definitions.step depth inside base frames lexeme = .ok (.unfinished next))
    (rest : List Lexeme) :
    definitions.read depth inside base frames (lexeme :: rest) =
      definitions.read depth inside base next rest := by
  rw [read_cons, stepped]
  rfl

/-- Tokens leave elements open if each of them does. -/
theorem step_of_read {definitions : Definitions} {depth base : Nat} {inside : List (List Char)}
    {frames next : List Frame} {lexeme : Lexeme} {rest : List Lexeme}
    (read : definitions.read depth inside base frames (lexeme :: rest) = .ok (.unfinished next)) :
    ∃ middle, definitions.step depth inside base frames lexeme = .ok (.unfinished middle) ∧
      definitions.read depth inside base middle rest = .ok (.unfinished next) := by
  rw [read_cons] at read
  rcases stepped : definitions.step depth inside base frames lexeme with failure | reading
  · rw [stepped] at read
    cases read
  · rw [stepped] at read
    cases reading with
    | unfinished middle => exact ⟨middle, rfl, read⟩
    | finished => cases read

/-- Elements that are left open by some tokens are left open by the tokens in other places. -/
theorem read_unfinished {definitions : Definitions} {depth base : Nat} {inside : List (List Char)}
    {items others : List Lexeme} (same : items.map (·.token.bare) = others.map (·.token.bare))
    {frames next : List Frame}
    (read : definitions.read depth inside base frames items = .ok (.unfinished next)) :
    definitions.read depth inside base frames others = .ok (.unfinished next) := by
  induction items generalizing others frames with
  | nil =>
    obtain rfl := List.map_eq_nil_iff.mp same.symm
    exact read
  | cons lexeme rest inductionHypothesis =>
    obtain ⟨other, later, rfl, token, tokens⟩ := List.map_eq_cons_iff.mp same.symm
    obtain ⟨middle, stepped, remaining⟩ := step_of_read read
    rw [read_of_step (step_unfinished token.symm stepped)]
    exact inductionHypothesis tokens.symm remaining

/-- Tokens are read one after the other. -/
theorem read_append {definitions : Definitions} {depth base : Nat} {inside : List (List Char)}
    {front : List Lexeme} {frames next : List Frame}
    (read : definitions.read depth inside base frames front = .ok (.unfinished next))
    (rest : List Lexeme) :
    definitions.read depth inside base frames (front ++ rest) =
      definitions.read depth inside base next rest := by
  induction front generalizing frames with
  | nil =>
    rw [Definitions.read] at read
    obtain rfl := Reading.unfinished.inj (Except.ok.inj read)
    rfl
  | cons lexeme others inductionHypothesis =>
    obtain ⟨middle, stepped, remaining⟩ := step_of_read read
    rw [List.cons_append, read_of_step stepped]
    exact inductionHypothesis remaining

/-- Comments and instructions leave no trace. -/
theorem read_aside (definitions : Definitions) (depth : Nat) (inside : List (List Char))
    (base : Nat) (frames : List Frame) {lexeme : Lexeme} (aside : lexeme.token = .aside)
    (rest : List Lexeme) :
    definitions.read depth inside base frames (lexeme :: rest) =
      definitions.read depth inside base frames rest := by
  refine read_of_step ?_ rest
  rw [Definitions.step, aside, Definitions.take, aside]

end LintReview.Markup
