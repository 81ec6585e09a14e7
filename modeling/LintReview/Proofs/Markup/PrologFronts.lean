import LintReview.Markup.Prolog.Grammar
import LintReview.Proofs.Markup.Fronts

/-!
# The front of a document

A token of the prolog may end only because of the character behind it, and sometimes because
of the one after that, so it is read in the same way where these two are the same
(`SameTwo`). The token that begins the element looks at the first character of the name and
takes nothing. Whether a token may come does not depend on its place either, and so the
prolog of a document is read in the same way whatever follows the first character of its
element (`read_local`).
-/

namespace LintReview.Markup

/-- The other text begins with the same two characters, or is the same if it is shorter. -/
def SameTwo (rest other : List Char) : Prop := other.take 2 = rest.take 2

namespace SameTwo

/-- The first character is the same. -/
theorem head {rest other : List Char} (same : SameTwo rest other) : SameHead rest other := by
  have heads := congrArg List.head? same
  simpa [SameHead, List.head?_take] using heads

/-- The first character and the one after it. -/
theorem cons {character : Char} {rest other : List Char}
    (same : SameTwo (character :: rest) other) :
    ∃ more, other = character :: more ∧ SameHead rest more := by
  obtain ⟨more, rfl⟩ := List.head?_eq_some_iff.mp same.head
  refine ⟨more, rfl, ?_⟩
  have tails := congrArg (fun text => text.tail.head?) same
  simpa [SameHead, List.head?_take] using tails

/-- Both texts begin in the same way. -/
theorem symm {rest other : List Char} (same : SameTwo rest other) : SameTwo other rest :=
  Eq.symm same

/-- A text may stand in front of both. -/
theorem append (front : List Char) {rest other : List Char} (same : SameTwo rest other) :
    SameTwo (front ++ rest) (front ++ other) := by
  unfold SameTwo at same ⊢
  rw [List.take_append, List.take_append]
  have fewer := congrArg (List.take (2 - front.length)) same
  rw [List.take_take, List.take_take, Nat.min_eq_left (Nat.sub_le _ _)] at fewer
  rw [fewer]

end SameTwo

/-- If any text may stand behind, then any that begins in the same way. -/
theorem IsLocal.mono {α γ ε : Type} {near other : List Char → List Char → Prop} {bare : α → γ}
    {read : List Char → Except ε (α × List Char)} (settled : IsLocal near bare read)
    (fewer : ∀ rest more, other rest more → near rest more) : IsLocal other bare read := by
  intro text found rest given
  obtain ⟨taken, whole, alike⟩ := settled given
  exact ⟨taken, whole, fun more same => alike more (fewer rest more same)⟩

namespace Prolog

/-- A literal ends at its quote, in front of a character that may follow. -/
theorem literal_local (quote : Char) : IsLocal SameHead id (literal quote) := by
  intro text found rest read
  induction text generalizing found with
  | nil => cases read
  | cons character more inductionHypothesis =>
    rw [literal] at read
    split at read
    · next closes =>
      split at read
      · next follows =>
        obtain ⟨rfl, rfl⟩ := Prod.mk.inj (Except.ok.inj read)
        refine ⟨[character], rfl, fun other same => ⟨[], ?_, rfl⟩⟩
        rw [List.singleton_append, literal, if_pos closes, if_pos (by rw [same]; exact follows)]
      · cases read
    · next inside =>
      split at read
      · next allowed =>
        split at read
        · cases read
        · next text after inner =>
          obtain ⟨rfl, rfl⟩ := Prod.mk.inj (Except.ok.inj read)
          obtain ⟨taken, rfl, alike⟩ := inductionHypothesis inner
          refine ⟨character :: taken, rfl, fun other same => ?_⟩
          obtain ⟨again, ended, rfl⟩ := alike other same
          refine ⟨character :: again, ?_, rfl⟩
          rw [List.cons_append, literal, if_neg inside, if_pos allowed, ended]
      · cases read

section Words

variable (kind : WordKind) (written : List Char) {character : Char} (rest : List Char)

/-- A name character goes on with a word. -/
theorem word_inside (inside : isNameCharacter character = true) :
    word kind written (character :: rest) = word kind (character :: written) rest := by
  rw [word.eq_def]
  dsimp only
  rw [if_pos inside]

/-- A character that may follow a word ends it. -/
theorem word_stop (outside : ¬ isNameCharacter character = true)
    (follows : mayFollowWord character = true) :
    word kind written (character :: rest) =
      .ok (.word kind written.reverse, character :: rest) := by
  rw [word.eq_def]
  dsimp only
  rw [if_neg outside, if_pos follows]

/-- A mark for repetition ends a name. -/
theorem word_repeated (outside : ¬ isNameCharacter character = true)
    (goes : ¬ mayFollowWord character = true) (other : ¬ character = ':')
    (mark : (character = '?' || character = '*' || character = '+') = true)
    (whole : ¬ kind = .token) :
    word kind written (character :: rest) = .ok (.repeated written.reverse, rest) := by
  rw [word.eq_def]
  dsimp only
  rw [if_neg outside, if_neg goes, if_neg other, if_pos mark, if_neg whole]

/-- The first colon in a name, in front of another character. -/
theorem word_firstColon :
    word .name written (':' :: character :: rest) =
      if isNameCharacter character then word .qualified (character :: ':' :: written) rest
      else word .token (':' :: written) (character :: rest) := by
  rw [word.eq_def]
  rfl

/-- Any other colon. -/
theorem word_colon (known : kind = .name → False) :
    word kind written (':' :: rest) = word .token (':' :: written) rest := by
  rw [word.eq_def]
  cases kind with
  | name => exact (known rfl).elim
  | qualified => rfl
  | token => rfl

end Words

/-- A word ends in front of the same character. -/
theorem word_local (kind : WordKind) (written : List Char) :
    IsLocal SameHead id (word kind written) := by
  intro text found rest read
  fun_induction word kind written text generalizing found with
  | case1 kind written =>
    obtain ⟨rfl, rfl⟩ := Prod.mk.inj (Except.ok.inj read)
    refine ⟨[], rfl, fun other same => ⟨_, ?_, rfl⟩⟩
    obtain rfl := List.head?_eq_none_iff.mp same
    rfl
  | case2 kind written character more inside inductionHypothesis =>
    obtain ⟨taken, rfl, alike⟩ := inductionHypothesis read
    refine ⟨character :: taken, rfl, fun other same => ?_⟩
    rw [List.cons_append, word_inside kind written _ inside]
    exact alike other same
  | case3 kind written character more outside follows =>
    obtain ⟨rfl, rfl⟩ := Prod.mk.inj (Except.ok.inj read)
    refine ⟨[], rfl, fun other same => ⟨_, ?_, rfl⟩⟩
    obtain ⟨behind, rfl⟩ := List.head?_eq_some_iff.mp same
    exact word_stop kind written behind outside follows
  | case4 | case8 | case10 => cases read
  | case5 written next after inside _ _ inductionHypothesis =>
    obtain ⟨taken, rfl, alike⟩ := inductionHypothesis read
    refine ⟨':' :: next :: taken, rfl, fun other same => ?_⟩
    rw [List.cons_append, List.cons_append, word_firstColon, if_pos inside]
    exact alike other same
  | case6 written next after outside _ _ inductionHypothesis =>
    obtain ⟨taken, whole, alike⟩ := inductionHypothesis read
    refine ⟨':' :: taken, congrArg (_ :: ·) whole, fun other same => ?_⟩
    obtain ⟨again, ended, bare⟩ := alike other same
    refine ⟨again, ?_, bare⟩
    -- the character behind the colon is the same, whether it is taken or not
    have head : ∃ more, taken ++ other = next :: more := by
      cases taken with
      | nil =>
        rw [List.nil_append] at whole
        exact List.head?_eq_some_iff.mp (same.trans (congrArg List.head? whole.symm))
      | cons first taken =>
        rw [List.cons_append] at whole
        exact ⟨taken ++ other, congrArg (· :: _) (List.cons.inj whole).1.symm⟩
    obtain ⟨more, form⟩ := head
    rw [form] at ended
    rw [List.cons_append, form, word_firstColon, if_neg outside, ended]
  | case7 kind written more known _ _ inductionHypothesis =>
    obtain ⟨taken, rfl, alike⟩ := inductionHypothesis read
    refine ⟨':' :: taken, rfl, fun other same => ?_⟩
    rw [List.cons_append, word_colon kind written _ known]
    exact alike other same
  | case9 kind written character more outside goes colon mark whole =>
    obtain ⟨rfl, rfl⟩ := Prod.mk.inj (Except.ok.inj read)
    refine ⟨[character], rfl, fun other _ => ⟨_, ?_, rfl⟩⟩
    exact word_repeated kind written other outside goes colon mark whole

/-- The keyword of a declaration ends in front of a blank, or of a reference to a parameter. -/
theorem declarationKeyword_local (written : List Char) :
    IsLocal SameTwo id (declarationKeyword written) := by
  intro text found rest read
  induction text generalizing written found with
  | nil => cases read
  | cons character more inductionHypothesis =>
    rw [declarationKeyword.eq_def] at read
    dsimp only at read
    split at read
    · next letter =>
      obtain ⟨taken, rfl, alike⟩ := inductionHypothesis _ read
      refine ⟨character :: taken, rfl, fun other same => ?_⟩
      rw [List.cons_append, declarationKeyword.eq_def]
      dsimp only
      rw [if_pos letter]
      exact alike other same
    · next stops =>
      split at read
      · next blank =>
        obtain ⟨rfl, rfl⟩ := Prod.mk.inj (Except.ok.inj read)
        refine ⟨[], rfl, fun other same => ⟨_, ?_, rfl⟩⟩
        obtain ⟨behind, rfl, -⟩ := same.cons
        rw [List.nil_append, declarationKeyword.eq_def]
        dsimp only
        rw [if_neg stops, if_pos blank]
      · next solid =>
        split at read
        · next percent =>
          split at read
          · cases read
          · next head tail =>
            split at read
            · cases read
            · next named =>
              obtain ⟨rfl, rfl⟩ := Prod.mk.inj (Except.ok.inj read)
              refine ⟨[], rfl, fun other same => ⟨_, ?_, rfl⟩⟩
              obtain ⟨behind, rfl, follows⟩ := same.cons
              obtain ⟨behind, rfl⟩ := List.head?_eq_some_iff.mp follows
              rw [List.nil_append, declarationKeyword.eq_def]
              dsimp only
              rw [if_neg stops, if_neg solid, if_pos percent, if_neg named]
        · cases read

/-- The result of a reader under another name. -/
theorem map_local {α β ε : Type} {near : List Char → List Char → Prop}
    {reader : List Char → Except ε (α × List Char)} (settled : IsLocal near id reader)
    {change : α × List Char → β × List Char} {wrap : α → β}
    (form : ∀ value rest, change (value, rest) = (wrap value, rest)) {text rest : List Char}
    {found : β} (read : (reader text).map change = .ok (found, rest)) :
    ∃ taken, text = taken ++ rest ∧
      ∀ other, near rest other → (reader (taken ++ other)).map change = .ok (found, other) := by
  rcases inner : reader text with stop | ⟨value, after⟩
  · rw [inner] at read
    cases read
  · rw [inner] at read
    have same : (wrap value, after) = (found, rest) :=
      (form value after).symm.trans (Except.ok.inj read)
    obtain ⟨rfl, rfl⟩ := Prod.mk.inj same
    obtain ⟨taken, rfl, alike⟩ := settled.exact inner
    refine ⟨taken, rfl, fun other allowed => ?_⟩
    rw [alike other allowed]
    exact congrArg Except.ok (form value other)

/-- A comment, a section or the keyword of a declaration. -/
theorem afterExclamation_local : IsLocal SameTwo id afterExclamation := by
  intro text found rest read
  unfold afterExclamation at read
  split at read
  · cases read
  · next more =>
    rcases inner : comment more with stop | after
    · rw [inner] at read
      cases read
    · rw [inner] at read
      obtain ⟨rfl, rfl⟩ := Prod.mk.inj (Except.ok.inj read)
      obtain ⟨taken, rfl, alike⟩ := comment_local inner
      refine ⟨'-' :: taken, rfl, fun other _ => ⟨_, ?_, rfl⟩⟩
      change (comment (taken ++ other)).map _ = _
      rw [alike other]
      rfl
  · obtain ⟨rfl, rfl⟩ := Prod.mk.inj (Except.ok.inj read)
    exact ⟨['['], rfl, fun other _ => ⟨_, rfl, rfl⟩⟩
  · next first more notComment notConditional =>
    split at read
    · next letter =>
      obtain ⟨taken, rfl, alike⟩ := declarationKeyword_local _ read
      refine ⟨first :: taken, rfl, fun other same => ?_⟩
      rw [List.cons_append, afterExclamation, if_pos letter]
      · exact alike other same
      · exact notComment
      · exact notConditional
    · cases read

/-- What begins with a bracket, if it is not the element. -/
theorem angled_local {text rest : List Char} {found : Token}
    (read : angled text = .ok (found, rest)) (inProlog : found ≠ .element) :
    ∃ taken, text = taken ++ rest ∧
      ∀ other, SameTwo rest other → angled (taken ++ other) = .ok (found, other) := by
  unfold angled at read
  split at read
  · cases read
  · obtain ⟨taken, rfl, alike⟩ := afterExclamation_local.exact read
    exact ⟨'!' :: taken, rfl, alike⟩
  · obtain ⟨taken, rfl, alike⟩ := map_local (instruction_local.mono fun _ _ _ => trivial)
      (fun _ _ => rfl) read
    exact ⟨'?' :: taken, rfl, alike⟩
  · split at read
    · -- the beginning of the element is the only token that takes nothing
      exact (inProlog (Prod.mk.inj (Except.ok.inj read)).1.symm).elim
    · cases read

/-- A reference to a parameter, or the mark alone. -/
theorem afterPercent_local : IsLocal SameTwo id afterPercent := by
  intro text found rest read
  unfold afterPercent at read
  split at read
  · cases read
  · next first more =>
    split at read
    · next starts =>
      split at read
      · cases read
      · next after left =>
        obtain ⟨rfl, rfl⟩ := Prod.mk.inj (Except.ok.inj read)
        obtain ⟨whole, cut⟩ := cut_run left
        rw [List.takeWhile_cons_of_pos (isNameCharacter_of_isNameStart starts)] at whole cut ⊢
        refine ⟨first :: (more.takeWhile isNameCharacter ++ [';']), by simpa using whole,
          fun other _ => ⟨_, ?_, rfl⟩⟩
        obtain ⟨before, behind⟩ := cut other
        have form : first :: (more.takeWhile isNameCharacter ++ [';']) ++ other =
            first :: more.takeWhile isNameCharacter ++ ';' :: other := by simp
        rw [form, List.cons_append] at *
        unfold afterPercent
        dsimp only
        rw [if_pos starts, behind, before]
        rfl
      · cases read
    · next other =>
      split at read
      · next alone =>
        obtain ⟨rfl, rfl⟩ := Prod.mk.inj (Except.ok.inj read)
        refine ⟨[], rfl, fun ending same => ⟨_, ?_, rfl⟩⟩
        obtain ⟨behind, rfl, -⟩ := same.cons
        rw [List.nil_append, afterPercent, if_neg other, if_pos alone]
      · cases read

/-- A keyword ends in front of the same character. -/
theorem afterHash_local : IsLocal SameTwo id afterHash := by
  intro text found rest read
  unfold afterHash at read
  split at read
  · cases read
  · next first more =>
    split at read
    · next starts =>
      dsimp only at read
      split at read
      · next follows =>
        obtain ⟨rfl, rfl⟩ := Prod.mk.inj (Except.ok.inj read)
        refine ⟨_, List.takeWhile_append_dropWhile.symm, fun other same => ⟨_, ?_, rfl⟩⟩
        obtain ⟨before, behind⟩ := cut_head isNameCharacter (first :: more) same.head
        have form : (first :: more).takeWhile isNameCharacter ++ other =
            first :: (more.takeWhile isNameCharacter ++ other) := by
          rw [List.takeWhile_cons_of_pos (isNameCharacter_of_isNameStart starts)]
          rfl
        rw [form] at before behind ⊢
        unfold afterHash
        dsimp only
        rw [if_pos starts, behind, before, if_pos (same.head ▸ follows)]
      · cases read
    · cases read

/-- The end of a group, with its mark for repetition. -/
theorem afterGroup_local : IsLocal SameTwo id afterGroup := by
  intro text found rest read
  unfold afterGroup at read
  split at read
  · obtain ⟨rfl, rfl⟩ := Prod.mk.inj (Except.ok.inj read)
    refine ⟨[], rfl, fun other same => ⟨_, ?_, rfl⟩⟩
    obtain rfl := List.head?_eq_none_iff.mp same.head
    rfl
  · next character more =>
    split at read
    · next mark =>
      obtain ⟨rfl, rfl⟩ := Prod.mk.inj (Except.ok.inj read)
      refine ⟨[character], rfl, fun other _ => ⟨_, ?_, rfl⟩⟩
      rw [List.singleton_append, afterGroup, if_pos mark]
    · next plain =>
      split at read
      · next follows =>
        obtain ⟨rfl, rfl⟩ := Prod.mk.inj (Except.ok.inj read)
        refine ⟨[], rfl, fun other same => ⟨_, ?_, rfl⟩⟩
        obtain ⟨behind, rfl, -⟩ := same.cons
        rw [List.nil_append, afterGroup, if_neg plain, if_pos follows]
      · cases read

/-- The end of a list of declarations, or of a section. -/
theorem afterBracket_local : IsLocal SameTwo id afterBracket := by
  intro text found rest read
  unfold afterBracket at read
  split at read
  · cases read
  · obtain ⟨rfl, rfl⟩ := Prod.mk.inj (Except.ok.inj read)
    exact ⟨[']', '>'], rfl, fun other _ => ⟨_, rfl, rfl⟩⟩
  · next notEnd notLast =>
    obtain ⟨rfl, rfl⟩ := Prod.mk.inj (Except.ok.inj read)
    refine ⟨[], rfl, fun other same => ⟨_, ?_, rfl⟩⟩
    rw [List.nil_append]
    unfold afterBracket
    split
    · obtain ⟨more, rfl, ends⟩ := SameTwo.cons (same : SameTwo _ _).symm
      obtain rfl := List.head?_eq_none_iff.mp ends
      exact (notEnd rfl).elim
    · next after =>
      obtain ⟨more, rfl, next⟩ := SameTwo.cons (same : SameTwo _ _).symm
      obtain ⟨more, rfl⟩ := List.head?_eq_some_iff.mp next
      exact (notLast more rfl).elim
    · rfl

/-- A token in front of the element. -/
theorem token_local {first : Char} {text rest : List Char} {found : Token}
    (read : token first text = .ok (found, rest)) (inProlog : found ≠ .element) :
    ∃ taken, text = taken ++ rest ∧
      ∀ other, SameTwo rest other → token first (taken ++ other) = .ok (found, other) := by
  unfold token at read
  split at read
  · next blank =>
    obtain ⟨rfl, rfl⟩ := Prod.mk.inj (Except.ok.inj read)
    refine ⟨_, List.takeWhile_append_dropWhile.symm, fun other same => ?_⟩
    unfold token
    rw [if_pos blank, (cut_head isBlank text same.head).2]
  · next solid =>
    have quoted {quote : Char}
        (given : (literal quote text).map (fun read => (.literal read.1, read.2)) =
          .ok (found, rest)) :
        ∃ taken, text = taken ++ rest ∧ ∀ other, SameTwo rest other →
          (literal quote (taken ++ other)).map (fun read => (.literal read.1, read.2)) =
            .ok (found, other) :=
      map_local (IsLocal.mono (literal_local quote) fun _ _ => SameTwo.head) (fun _ _ => rfl) given
    split at read
    · obtain ⟨taken, rfl, alike⟩ := angled_local read inProlog
      exact ⟨taken, rfl, alike⟩
    · obtain ⟨taken, rfl, alike⟩ := quoted read
      exact ⟨taken, rfl, alike⟩
    · obtain ⟨taken, rfl, alike⟩ := quoted read
      exact ⟨taken, rfl, alike⟩
    · obtain ⟨taken, rfl, alike⟩ := afterPercent_local.exact read
      exact ⟨taken, rfl, alike⟩
    · obtain ⟨taken, rfl, alike⟩ := afterHash_local.exact read
      exact ⟨taken, rfl, alike⟩
    · obtain ⟨taken, rfl, alike⟩ := afterGroup_local.exact read
      exact ⟨taken, rfl, alike⟩
    · obtain ⟨taken, rfl, alike⟩ := afterBracket_local.exact read
      exact ⟨taken, rfl, alike⟩
    · obtain ⟨rfl, rfl⟩ := Prod.mk.inj (Except.ok.inj read)
      exact ⟨[], rfl, fun other _ => rfl⟩
    · obtain ⟨rfl, rfl⟩ := Prod.mk.inj (Except.ok.inj read)
      exact ⟨[], rfl, fun other _ => rfl⟩
    · obtain ⟨rfl, rfl⟩ := Prod.mk.inj (Except.ok.inj read)
      exact ⟨[], rfl, fun other _ => rfl⟩
    · obtain ⟨rfl, rfl⟩ := Prod.mk.inj (Except.ok.inj read)
      exact ⟨[], rfl, fun other _ => rfl⟩
    · obtain ⟨rfl, rfl⟩ := Prod.mk.inj (Except.ok.inj read)
      exact ⟨[], rfl, fun other _ => rfl⟩
    · have form (other : List Char) : token first other =
          if isNameStart first then word .name [first] other
          else if isNameCharacter first || first = ':' then word .token [first] other
          else .error (.refused (first :: other)) := by
        unfold token
        rw [if_neg solid]
        -- the characters that begin other tokens are excluded
        split
        all_goals first | contradiction | rfl
      split at read
      · next starts =>
        obtain ⟨taken, rfl, alike⟩ := IsLocal.exact (word_local .name [first]) read
        refine ⟨taken, rfl, fun other same => ?_⟩
        rw [form, if_pos starts]
        exact alike other same.head
      · next begins =>
        split at read
        · next inside =>
          obtain ⟨taken, rfl, alike⟩ := IsLocal.exact (word_local .token [first]) read
          refine ⟨taken, rfl, fun other same => ?_⟩
          rw [form, if_neg begins, if_pos inside]
          exact alike other same.head
        · cases read

/-! ## The beginning of the element -/

/-- A word does not begin the element. -/
theorem word_ne_element {kind : WordKind} {written text rest : List Char} :
    word kind written text ≠ .ok (.element, rest) := by
  intro read
  fun_induction word kind written text with
  | case1 | case3 | case4 | case8 | case9 | case10 => cases read
  | case2 _ _ _ _ _ inductionHypothesis => exact inductionHypothesis read
  | case5 _ _ _ _ _ _ inductionHypothesis => exact inductionHypothesis read
  | case6 _ _ _ _ _ _ inductionHypothesis => exact inductionHypothesis read
  | case7 _ _ _ _ _ _ inductionHypothesis => exact inductionHypothesis read

/-- Nor does a keyword. -/
theorem declarationKeyword_ne_element {written text rest : List Char} :
    declarationKeyword written text ≠ .ok (.element, rest) := by
  intro read
  induction text generalizing written with
  | nil => cases read
  | cons character more inductionHypothesis =>
    rw [declarationKeyword.eq_def] at read
    dsimp only at read
    split at read
    · exact inductionHypothesis read
    · split at read
      · cases read
      · split at read
        · split at read
          · cases read
          · split at read
            · cases read
            · cases read
        · cases read

/-- Nor does what is given another name. -/
theorem map_ne_element {α : Type} {reader : Except Stop α} {wrap : α → Token × List Char}
    {rest : List Char} (other : ∀ value, (wrap value).1 ≠ .element) :
    reader.map wrap ≠ .ok (.element, rest) := by
  intro read
  cases reader with
  | error => cases read
  | ok value => exact other value (congrArg Prod.fst (Except.ok.inj read))

/-- Nor does a reference to a parameter. -/
theorem afterPercent_ne_element {text rest : List Char} :
    afterPercent text ≠ .ok (.element, rest) := by
  intro read
  unfold afterPercent at read
  split at read
  · cases read
  · split at read
    · split at read <;> cases read
    · split at read <;> cases read

/-- Nor does a keyword after its mark. -/
theorem afterHash_ne_element {text rest : List Char} :
    afterHash text ≠ .ok (.element, rest) := by
  intro read
  unfold afterHash at read
  split at read
  · cases read
  · split at read
    · dsimp only at read
      split at read <;> cases read
    · cases read

/-- Nor does the end of a group. -/
theorem afterGroup_ne_element {text rest : List Char} :
    afterGroup text ≠ .ok (.element, rest) := by
  intro read
  unfold afterGroup at read
  split at read
  · cases read
  · split at read
    · cases read
    · split at read <;> cases read

/-- Nor does the end of a list. -/
theorem afterBracket_ne_element {text rest : List Char} :
    afterBracket text ≠ .ok (.element, rest) := by
  intro read
  unfold afterBracket at read
  split at read <;> cases read

/-- What begins the element is a bracket and one further character. -/
theorem angled_element {text rest : List Char} (read : angled text = .ok (.element, rest)) :
    ∃ first more, text = first :: more ∧
      ∀ other, angled (first :: other) = .ok (.element, '<' :: first :: other) := by
  unfold angled at read
  split at read
  · cases read
  · unfold afterExclamation at read
    split at read
    · cases read
    · exact (map_ne_element (fun _ => by rintro ⟨⟩) read).elim
    · cases read
    · split at read
      · exact (declarationKeyword_ne_element read).elim
      · cases read
  · exact (map_ne_element (fun _ => by rintro ⟨⟩) read).elim
  · next first more notMark notInstruction =>
    split at read
    · next starts =>
      refine ⟨first, more, rfl, fun other => ?_⟩
      rw [angled, if_pos starts]
      · exact notMark
      · exact notInstruction
    · cases read

/-- Only a bracket begins the element, in front of every text with the same first character. -/
theorem token_element {head : Char} {tail after : List Char}
    (read : token head tail = .ok (.element, after)) :
    ∃ first rest, head = '<' ∧ tail = first :: rest ∧
      ∀ other, token '<' (first :: other) = .ok (.element, '<' :: first :: other) := by
  unfold token at read
  split at read
  · cases read
  · split at read
    · obtain ⟨first, rest, rfl, alike⟩ := angled_element read
      exact ⟨first, rest, rfl, rfl, alike⟩
    · exact (map_ne_element (fun _ => by rintro ⟨⟩) read).elim
    · exact (map_ne_element (fun _ => by rintro ⟨⟩) read).elim
    · exact (afterPercent_ne_element read).elim
    · exact (afterHash_ne_element read).elim
    · exact (afterGroup_ne_element read).elim
    · exact (afterBracket_ne_element read).elim
    · cases read
    · cases read
    · cases read
    · cases read
    · cases read
    · split at read
      · exact (word_ne_element read).elim
      · split at read
        · exact (word_ne_element read).elim
        · cases read

/-! ## Up to the element -/

/-- A public identifier is refused wherever it stands. -/
theorem checkPublic_agree (here other identifier : List Char) :
    Agree (checkPublic here identifier) (checkPublic other identifier) := by
  unfold checkPublic
  split
  · exact .given ()
  · exact .failed _ _

/-- An entity is defined wherever its literal stands. -/
theorem textEntity_agree (progress : Progress) (name : Option (List Char))
    (here other text : List Char) :
    Agree (progress.textEntity name here text) (progress.textEntity name other text) := by
  unfold Progress.textEntity
  split
  · exact .given _
  · split
    · exact .failed _ _
    · exact .given _
    · exact .given _

/-- A default value is given wherever its literal stands. -/
theorem defaultAttribute_agree (progress : Progress) (head : AttributeHead)
    (here other text : List Char) :
    Agree (progress.defaultAttribute head here text)
      (progress.defaultAttribute head other text) := by
  unfold Progress.defaultAttribute
  split
  · exact .given _
  · split
    · exact .failed _ _
    · exact .failed _ _
    · split
      · exact .failed _ _
      · exact .given _

/-- Whether a token may come does not depend on its place. -/
theorem advance_agree (progress : Progress) (token : Token) (here other : List Char) :
    Agree (advance progress ⟨token, here⟩) (advance progress ⟨token, other⟩) := by
  unfold advance
  dsimp only
  split
  all_goals first
    | exact .given _
    | exact textEntity_agree progress _ here other _
    | exact defaultAttribute_agree progress _ here other _
    | exact (checkPublic_agree here other _).bind fun _ => .given _
    | skip
  all_goals repeat' split
  all_goals first
    | exact .given _
    | exact .failed _ _

/-- A token in front of others. -/
theorem lexemesWithin_cons {found : Token} {first : Char} {rest after : List Char}
    (read : token first rest = .ok (found, after)) (inProlog : found ≠ .element) (one : Char)
    (budget : List Char) :
    lexemesWithin (one :: budget) (first :: rest) =
      ⟨⟨found, first :: rest⟩ :: (lexemesWithin budget after).items,
        (lexemesWithin budget after).failure⟩ := by
  rw [lexemesWithin, read]
  split
  · next failed => cases failed
  · next same =>
    obtain ⟨rfl, -⟩ := Prod.mk.inj (Except.ok.inj same)
    exact (inProlog rfl).elim
  · next same =>
    obtain ⟨rfl, rfl⟩ := Prod.mk.inj (Except.ok.inj same)
    rfl

/-- The beginning of the element is the last token. -/
theorem lexemesWithin_element {first : Char} {rest after : List Char}
    (read : token first rest = .ok (.element, after)) (one : Char) (budget : List Char) :
    lexemesWithin (one :: budget) (first :: rest) = ⟨[⟨.element, first :: rest⟩], none⟩ := by
  rw [lexemesWithin, read]

/-- The element begins if it may come. -/
theorem readTokens_element (progress : Progress) (atEnd : Failure) (here : List Char) :
    readTokens progress atEnd [⟨.element, here⟩] =
      if progress.awaiting.allowsElement then .ok (progress.definitions, here)
      else .error (unexpected ⟨.element, here⟩) :=
  if_pos rfl

/-- A token is taken up if it may come. -/
theorem readTokens_cons (progress : Progress) (atEnd : Failure) {lexeme : Lexeme}
    (inProlog : lexeme.token ≠ .element) (rest : List Lexeme) :
    readTokens progress atEnd (lexeme :: rest) =
      match advance progress lexeme with
      | .error failure => .error failure
      | .ok next => readTokens next atEnd rest :=
  if_neg inProlog

/-- What stands in front of the element is read in the same way in front of every element whose
    name begins with the same character. -/
theorem readTokens_local {progress : Progress} {atEnd : Failure}
    {budget text fromElement : List Char} {definitions : Definitions}
    (read : readTokens progress atEnd (lexemesWithin budget text).items =
      .ok (definitions, fromElement)) :
    ∃ taken, text = taken ++ fromElement ∧ ∃ first rest, fromElement = '<' :: first :: rest ∧
      ∀ (other more : List Char) (otherEnd : Failure),
        taken.length < more.length →
          readTokens progress otherEnd (lexemesWithin more (taken ++ '<' :: first :: other)).items =
            .ok (definitions, '<' :: first :: other) := by
  induction budget generalizing progress text with
  | nil =>
    cases text with
    | nil => cases read
    | cons => cases read
  | cons one budget inductionHypothesis =>
    cases text with
    | nil => cases read
    | cons head tail =>
      rcases cut : token head tail with stop | ⟨found, after⟩
      · rw [lexemesWithin, cut] at read
        cases read
      · by_cases isElement : found = .element
        · subst isElement
          obtain ⟨first, rest, rfl, rfl, again⟩ := token_element cut
          rw [lexemesWithin_element cut, readTokens_element] at read
          by_cases allowed : progress.awaiting.allowsElement = true
          · rw [if_pos allowed] at read
            obtain ⟨rfl, rfl⟩ := Prod.mk.inj (Except.ok.inj read)
            refine ⟨[], rfl, first, rest, rfl, fun other more otherEnd enough => ?_⟩
            obtain ⟨one, more, rfl⟩ := List.exists_cons_of_length_pos enough
            rw [List.nil_append, lexemesWithin_element (again other), readTokens_element,
              if_pos allowed]
          · rw [if_neg allowed] at read
            cases read
        · rw [lexemesWithin_cons cut isElement, readTokens_cons progress atEnd isElement] at read
          split at read
          · cases read
          · next next advanced =>
            obtain ⟨taken, rfl, first, rest, rfl, alike⟩ := inductionHypothesis read
            obtain ⟨front, rfl, same⟩ := token_local cut isElement
            refine ⟨head :: (front ++ taken), by simp, first, rest, rfl,
              fun other more otherEnd enough => ?_⟩
            obtain ⟨one, more, rfl⟩ := List.exists_cons_of_length_pos (Nat.zero_lt_of_lt enough)
            have near : SameTwo (taken ++ '<' :: first :: rest) (taken ++ '<' :: first :: other) :=
              SameTwo.append taken rfl
            have left : taken.length < more.length := by
              simp only [List.length_cons, List.length_append] at enough
              omega
            have readvanced := (advance_agree progress found _
              (head :: (front ++ (taken ++ '<' :: first :: other)))).eq_ok advanced
            rw [List.cons_append, List.append_assoc, lexemesWithin_cons (same _ near) isElement,
              readTokens_cons progress otherEnd isElement, readvanced]
            exact alike other more otherEnd left

/-- The prolog of a document does not depend on what follows the first character of its element. -/
theorem read_local {text fromElement : List Char} {definitions : Definitions}
    (given : read text = .ok (definitions, fromElement)) :
    ∃ taken, text = taken ++ fromElement ∧ ∃ first rest, fromElement = '<' :: first :: rest ∧
      ∀ other,
        read (taken ++ '<' :: first :: other) = .ok (definitions, '<' :: first :: other) := by
  obtain ⟨taken, whole, first, rest, begins, alike⟩ := readTokens_local given
  refine ⟨taken, whole, first, rest, begins, fun other => alike other _ _ ?_⟩
  simp

end Prolog

end LintReview.Markup
