import LintReview.Proofs.Markup.Places
import LintReview.Proofs.Markup.WrittenTags

/-!
# Readers that take a front of a text

What a reader takes from the front of a text it takes in the same way in front of another
text, apart from the places it notes. Most readers end at a mark of their own, so anything
may stand behind. A name is only known to end by the next character (`SameHead`), and a
single carriage return or bracket only by what does not follow (`NoMore`). The readers are
composed as the grammar is, and the main result is about one token of an element's content
(`token_local`).
-/

namespace LintReview.Markup

/-- What is read from the front of a text is read, apart from places, in front of every other
text that is near enough to the rest. -/
def IsLocal {α γ ε : Type} (near : List Char → List Char → Prop) (bare : α → γ)
    (read : List Char → Except ε (α × List Char)) : Prop :=
  ∀ {text found rest}, read text = .ok (found, rest) → ∃ taken, text = taken ++ rest ∧
    ∀ other, near rest other → ∃ again, read (taken ++ other) = .ok (again, other) ∧
      bare again = bare found

/-- Without places, the same is read. -/
theorem IsLocal.exact {α ε : Type} {near : List Char → List Char → Prop}
    {read : List Char → Except ε (α × List Char)} (settled : IsLocal near id read)
    {text rest : List Char} {found : α} (given : read text = .ok (found, rest)) :
    ∃ taken, text = taken ++ rest ∧
      ∀ other, near rest other → read (taken ++ other) = .ok (found, other) := by
  obtain ⟨taken, whole, alike⟩ := settled given
  refine ⟨taken, whole, fun other allowed => ?_⟩
  obtain ⟨again, read, same⟩ := alike other allowed
  obtain rfl : again = found := same
  exact read

/-- Any text may stand behind. -/
def Anything (_ _ : List Char) : Prop := True

/-- The other text begins with the same character. -/
def SameHead (rest other : List Char) : Prop := other.head? = rest.head?

/-- A reader that reads nothing from an empty text takes the first character, and the same one in
front of every other text. -/
theorem IsLocal.takes {α γ ε : Type} {bare : α → γ} {read : List Char → Except ε (α × List Char)}
    (settled : IsLocal Anything bare read) (nonempty : ∀ value, read [] ≠ .ok value)
    {text rest : List Char} {found : α} (given : read text = .ok (found, rest)) :
    ∃ first taken, text = first :: (taken ++ rest) ∧ ∀ other, ∃ again,
      read (first :: (taken ++ other)) = .ok (again, other) ∧ bare again = bare found := by
  obtain ⟨taken, whole, alike⟩ := settled given
  cases taken with
  | nil =>
    obtain ⟨again, empty, -⟩ := alike [] trivial
    exact (nonempty _ empty).elim
  | cons first taken => exact ⟨first, taken, whole, fun other => alike other trivial⟩

/-- A run of characters is cut off in front of the same character in every text. -/
theorem cut_run {test : Char → Bool} {text rest : List Char} {stop : Char}
    (left : text.dropWhile test = stop :: rest) :
    text = text.takeWhile test ++ stop :: rest ∧
      ∀ other, (text.takeWhile test ++ stop :: other).takeWhile test = text.takeWhile test ∧
        (text.takeWhile test ++ stop :: other).dropWhile test = stop :: other := by
  have stops : test stop = false := by
    have head := List.head?_dropWhile_not test text
    rw [left] at head
    simpa using head
  have inside : ∀ character ∈ text.takeWhile test, test character = true :=
    List.all_eq_true.mp List.all_takeWhile
  refine ⟨?_, fun other => ⟨?_, ?_⟩⟩
  · rw [← left, List.takeWhile_append_dropWhile]
  · rw [List.takeWhile_append_of_pos inside, List.takeWhile_cons_of_neg (by simp [stops]),
      List.append_nil]
  · rw [List.dropWhile_append_of_pos inside, List.dropWhile_cons_of_neg (by simp [stops])]

/-- What begins with a run of characters is local, if what is read behind the run is. -/
theorem run_local {α γ : Type} (test : Char → Bool) {bare : α → γ}
    (next : List Char → List Char → Except Stop (α × List Char))
    (behind : ∀ run, IsLocal Anything bare (next run))
    (nonempty : ∀ run value, next run [] ≠ .ok value)
    {first : Char} {more rest : List Char} {found : α} (starts : test first = true)
    (read : next ((first :: more).takeWhile test) ((first :: more).dropWhile test) =
      .ok (found, rest)) :
    ∃ taken, more = taken ++ rest ∧ ∀ other, ∃ again,
      next ((first :: (taken ++ other)).takeWhile test)
          ((first :: (taken ++ other)).dropWhile test) = .ok (again, other) ∧
        bare again = bare found := by
  obtain ⟨stop, taken, left, alike⟩ := IsLocal.takes (behind _) (nonempty _) read
  obtain ⟨whole, cut⟩ := cut_run left
  rw [List.takeWhile_cons_of_pos starts] at whole cut alike
  refine ⟨more.takeWhile test ++ stop :: taken, ?_, fun other => ?_⟩
  · simpa using whole
  · obtain ⟨before, after⟩ := cut (taken ++ other)
    have form : first :: (more.takeWhile test ++ stop :: taken ++ other) =
        first :: more.takeWhile test ++ stop :: (taken ++ other) := by simp
    rw [form, before, after]
    exact alike other

/-- A reference ends at its semicolon. -/
theorem closeReference_local (target : Reference) :
    IsLocal Anything id (closeReference target) := by
  intro text found rest read
  unfold closeReference at read
  split at read
  · cases read
  · next more =>
    obtain ⟨rfl, rfl⟩ := Prod.mk.inj (Except.ok.inj read)
    exact ⟨[';'], rfl, fun other _ => ⟨_, rfl, rfl⟩⟩
  · cases read

/-- The digits of a reference are read up to the semicolon. -/
theorem numberReference_local (base : Nat) (isDigit : Char → Bool) :
    IsLocal Anything id (numberReference base isDigit) := by
  intro text found rest read
  unfold numberReference at read
  split at read
  · cases read
  · next first more =>
    split at read
    · next digit =>
      obtain ⟨taken, rfl, alike⟩ := run_local isDigit
        (fun run => closeReference (.number (numberOf base run)))
        (fun run => closeReference_local _) (fun run value => by rintro ⟨⟩) digit read
      refine ⟨first :: taken, rfl, fun other _ => ?_⟩
      rw [List.cons_append, numberReference, if_pos digit]
      exact alike other
    · cases read

/-- A reference to an entity begins with a name. -/
theorem reference_name {first : Char} (starts : isNameStart first = true) (rest : List Char) :
    reference (first :: rest) =
      closeReference (.entity ((first :: rest).takeWhile isNameCharacter))
        ((first :: rest).dropWhile isNameCharacter) := by
  have other : first ≠ '#' := by
    rintro rfl
    cases starts
  unfold reference
  split
  · next nothing => cases nothing
  · next same => exact (other (List.cons.inj same).1).elim
  · next same => exact (other (List.cons.inj same).1).elim
  · next same =>
    obtain ⟨rfl, rfl⟩ := List.cons.inj same
    rw [if_pos starts]

/-- A reference is read in the same way in front of every text. -/
theorem reference_local : IsLocal Anything id reference := by
  intro text found rest read
  unfold reference at read
  split at read
  · cases read
  · next more =>
    obtain ⟨taken, rfl, alike⟩ := numberReference_local _ _ read
    exact ⟨'#' :: 'x' :: taken, rfl, alike⟩
  · next more other =>
    obtain ⟨first, taken, rfl, alike⟩ :=
      IsLocal.takes (numberReference_local _ _) (by rintro _ ⟨⟩) read
    refine ⟨'#' :: first :: taken, rfl, fun ending _ => ?_⟩
    rw [List.cons_append, List.cons_append, reference]
    · exact alike ending
    · rintro more ⟨⟩
      exact other _ rfl
  · next first more _ _ =>
    split at read
    · next starts =>
      obtain ⟨taken, rfl, alike⟩ := run_local isNameCharacter
        (fun run => closeReference (.entity run))
        (fun run => closeReference_local _) (fun run value => by rintro ⟨⟩)
        (isNameCharacter_of_isNameStart starts) read
      refine ⟨first :: taken, rfl, fun other _ => ?_⟩
      rw [List.cons_append, reference_name starts]
      exact alike other
    · cases read

/-- A comment ends where it ends, whatever stands behind it. -/
theorem commentBody_local {text rest : List Char} (read : commentBody text = .ok rest) :
    ∃ taken, text = taken ++ rest ∧ ∀ other, commentBody (taken ++ other) = .ok other := by
  fun_induction commentBody text with
  | case1 => cases read
  | case2 => cases read
  | case3 more =>
    obtain rfl := Except.ok.inj read
    exact ⟨['-', '-', '>'], rfl, fun other => rfl⟩
  | case4 => cases read
  | case5 character more last closed refused allowed inductionHypothesis =>
    obtain ⟨taken, rfl, alike⟩ := inductionHypothesis read
    refine ⟨character :: taken, rfl, fun other => ?_⟩
    cases taken with
    | nil => cases alike []
    | cons next taken =>
      rw [List.cons_append, commentBody, if_pos allowed]
      · exact alike other
      · rintro rfl same
        exact refused _ rfl (congrArg (· :: _) (List.cons.inj same).1)
      · rintro more rfl same
        exact refused _ rfl (congrArg (· :: _) (List.cons.inj same).1)
      · rintro here rfl same
        exact refused _ rfl (congrArg (· :: _) (List.cons.inj same).1)
  | case6 => cases read

/-- An instruction ends where it ends. -/
theorem instructionBody_local : IsLocal Anything id instructionBody := by
  intro text found rest read
  fun_induction instructionBody text generalizing found with
  | case1 => cases read
  | case2 more =>
    obtain ⟨rfl, rfl⟩ := Prod.mk.inj (Except.ok.inj read)
    exact ⟨['?', '>'], rfl, fun other _ => ⟨_, rfl, rfl⟩⟩
  | case3 => cases read
  | case4 character more notLast allowed body after inner inductionHypothesis =>
    obtain ⟨rfl, rfl⟩ := Prod.mk.inj (Except.ok.inj read)
    obtain ⟨taken, rfl, alike⟩ := inductionHypothesis inner
    refine ⟨character :: taken, rfl, fun other _ => ?_⟩
    cases taken with
    | nil =>
      obtain ⟨again, empty, -⟩ := alike [] trivial
      cases empty
    | cons next taken =>
      obtain ⟨again, ended, rfl⟩ := alike other trivial
      refine ⟨character :: again, ?_, rfl⟩
      rw [List.cons_append, instructionBody, if_pos allowed, ended]
      rintro more rfl same
      exact notLast _ rfl (congrArg (· :: _) (List.cons.inj same).1)
  | case5 => cases read

/-- So does what stands behind its target. -/
theorem afterTarget_local (target : List Char) : IsLocal Anything id (afterTarget target) := by
  intro text found rest read
  unfold afterTarget at read
  split at read
  · cases read
  · next first more =>
    split at read
    · next ends =>
      split at read
      · cases read
      · next cased =>
        split at read
        · next blank =>
          split at read
          · cases read
          · next body after inner =>
            obtain ⟨rfl, rfl⟩ := Prod.mk.inj (Except.ok.inj read)
            obtain ⟨taken, rfl, alike⟩ := instructionBody_local inner
            refine ⟨first :: taken, rfl, fun other _ => ?_⟩
            obtain ⟨again, ended, rfl⟩ := alike other trivial
            refine ⟨_, ?_, rfl⟩
            rw [List.cons_append]
            unfold afterTarget
            dsimp only
            rw [if_pos ends, if_neg cased, if_pos blank, ended]
            rfl
        · next solid =>
          split at read
          · cases read
          · next after =>
            obtain ⟨rfl, rfl⟩ := Prod.mk.inj (Except.ok.inj read)
            refine ⟨[first, '>'], rfl, fun other _ => ⟨_, ?_, rfl⟩⟩
            rw [List.cons_append]
            unfold afterTarget
            dsimp only
            rw [if_pos ends, if_neg cased, if_neg solid]
            rfl
          · cases read
    · cases read

/-- An instruction is read in the same way in front of every text. -/
theorem instruction_local : IsLocal Anything id instruction := by
  intro text found rest read
  unfold instruction at read
  split at read
  · cases read
  · next first more =>
    split at read
    · next starts =>
      obtain ⟨taken, rfl, alike⟩ := run_local isNameCharacter afterTarget afterTarget_local
        (fun run value => by rintro ⟨⟩) (isNameCharacter_of_isNameStart starts) read
      refine ⟨first :: taken, rfl, fun other _ => ?_⟩
      rw [List.cons_append, instruction, if_pos starts]
      exact alike other
    · cases read

/-- A run of characters is cut off in the same way if the next character is the same. -/
theorem cut_head (test : Char → Bool) (text : List Char) {other : List Char}
    (same : SameHead (text.dropWhile test) other) :
    (text.takeWhile test ++ other).takeWhile test = text.takeWhile test ∧
      (text.takeWhile test ++ other).dropWhile test = other := by
  cases other with
  | nil =>
    have inside : ∀ character ∈ text.takeWhile test, test character = true :=
      List.all_eq_true.mp List.all_takeWhile
    rw [List.takeWhile_append_of_pos inside, List.dropWhile_append_of_pos inside]
    exact ⟨List.append_nil _, rfl⟩
  | cons stop rest =>
    obtain ⟨more, left⟩ := List.head?_eq_some_iff.mp same.symm
    exact (cut_run left).2 rest

/-- The part of a name behind the colon ends in front of the same character. -/
theorem namePart_local (qualifier : List Char) : IsLocal SameHead id (namePart qualifier) := by
  intro text found rest read
  unfold namePart at read
  split at read
  · cases read
  · next first more =>
    split at read
    · next starts =>
      split at read
      · cases read
      · next single =>
        obtain ⟨rfl, rfl⟩ := Prod.mk.inj (Except.ok.inj read)
        refine ⟨_, List.takeWhile_append_dropWhile.symm, fun other same => ⟨_, ?_, rfl⟩⟩
        obtain ⟨before, after⟩ := cut_head isNameCharacter (first :: more) same
        have form : (first :: more).takeWhile isNameCharacter ++ other =
            first :: (more.takeWhile isNameCharacter ++ other) := by
          rw [List.takeWhile_cons_of_pos (isNameCharacter_of_isNameStart starts)]
          rfl
        rw [form] at before after ⊢
        unfold namePart
        dsimp only
        rw [if_pos starts, before, after]
        split
        · obtain ⟨tail, left⟩ := List.head?_eq_some_iff.mp same.symm
          exact (single tail left).elim
        · rfl
    · cases read

/-- A name ends in front of the same character, with a colon or without. -/
theorem qualifiedName_local : IsLocal SameHead id qualifiedName := by
  intro text found rest read
  unfold qualifiedName at read
  split at read
  · next more left =>
    obtain ⟨taken, rfl, alike⟩ := namePart_local _ read
    obtain ⟨whole, cut⟩ := cut_run left
    refine ⟨text.takeWhile isNameCharacter ++ ':' :: taken, ?_, fun other same => ?_⟩
    · rw [List.append_assoc]
      exact whole
    · obtain ⟨before, after⟩ := cut (taken ++ other)
      rw [List.append_assoc, List.cons_append, qualifiedName, after, before]
      exact alike other same
  · next plain =>
    obtain ⟨rfl, rfl⟩ := Prod.mk.inj (Except.ok.inj read)
    refine ⟨_, List.takeWhile_append_dropWhile.symm, fun other same => ⟨_, ?_, rfl⟩⟩
    obtain ⟨before, after⟩ := cut_head isNameCharacter text same
    rw [qualifiedName, before, after]
    split
    · obtain ⟨tail, left⟩ := List.head?_eq_some_iff.mp same.symm
      exact (plain tail left).elim
    · rfl

/-! ## Attributes -/

/-- A piece in front of others was read, if the others were. -/
theorem pieces_behind {result : Except Stop (List Piece × List Char)} {piece : Piece}
    {found : List Piece} {rest : List Char}
    (read : (do
      let (others, after) ← result
      return (piece :: others, after)) = Except.ok (found, rest)) :
    ∃ others, result = .ok (others, rest) ∧ found = piece :: others := by
  rcases result with stop | ⟨others, after⟩
  · cases read
  · obtain ⟨rfl, rfl⟩ := Prod.mk.inj (Except.ok.inj read)
    exact ⟨others, rfl, rfl⟩

/-- A value is read up to its quote. Only its references note where they stand. -/
theorem pieces_local {quote : Char} (visible : quote ≠ '\r') :
    IsLocal Anything (List.map Piece.bare) (pieces (some quote)) := by
  intro text found rest read
  fun_induction pieces (some quote) text generalizing found with
  | case1 none => cases none
  | case2 => cases read
  | case3 more inductionHypothesis =>
    obtain ⟨others, inner, rfl⟩ := pieces_behind read
    obtain ⟨taken, rfl, alike⟩ := inductionHypothesis inner
    refine ⟨'\r' :: '\n' :: taken, rfl, fun other _ => ?_⟩
    obtain ⟨again, ended, same⟩ := alike other trivial
    refine ⟨.character ' ' :: again, ?_, congrArg (_ :: ·) same⟩
    rw [List.cons_append, List.cons_append, pieces, ended]
    rfl
  | case4 more stop refused => cases read
  | case5 more target after named shorter inductionHypothesis =>
    obtain ⟨others, inner, rfl⟩ := pieces_behind read
    obtain ⟨front, rfl, referred⟩ := reference_local named
    obtain ⟨taken, rfl, alike⟩ := inductionHypothesis inner
    refine ⟨'&' :: (front ++ taken), by simp, fun other _ => ?_⟩
    obtain ⟨again, ended, same⟩ := alike other trivial
    obtain ⟨known, renamed, rfl⟩ := referred (taken ++ other) trivial
    refine ⟨.reference known ('&' :: (front ++ taken ++ other)) :: again, ?_,
      congrArg (_ :: ·) same⟩
    rw [List.cons_append, pieces]
    rw [List.append_assoc] at *
    split
    · next stop failed =>
      rw [renamed] at failed
      cases failed
    · next found ending succeeded =>
      obtain ⟨rfl, rfl⟩ := Prod.mk.inj (Except.ok.inj (renamed.symm.trans succeeded))
      rw [ended]
      rfl
  | case6 character more notBreak notReference closes =>
    obtain ⟨rfl, rfl⟩ := Prod.mk.inj (Except.ok.inj read)
    obtain rfl := Option.some.inj closes
    refine ⟨[character], rfl, fun other _ => ⟨[], ?_, rfl⟩⟩
    rw [List.singleton_append, pieces, if_pos rfl]
    · exact fun _ carriage _ => visible carriage
    · exact notReference
  | case7 => cases read
  | case8 character more notBreak notReference opens allowed inductionHypothesis =>
    obtain ⟨others, inner, rfl⟩ := pieces_behind read
    obtain ⟨taken, rfl, alike⟩ := inductionHypothesis inner
    refine ⟨character :: taken, rfl, fun other _ => ?_⟩
    obtain ⟨again, ended, same⟩ := alike other trivial
    refine ⟨_ :: again, ?_, congrArg (_ :: ·) same⟩
    cases taken with
    | nil =>
      obtain ⟨again, empty, -⟩ := alike [] trivial
      rw [List.nil_append, pieces] at empty
      cases empty
    | cons next taken =>
      rw [List.cons_append, pieces, if_neg opens, if_neg allowed, ended]
      · rfl
      · rintro more rfl same
        exact notBreak _ rfl (congrArg (· :: _) (List.cons.inj same).1)
      · exact notReference

/-- A value is read with either quote. -/
theorem quotedValue_local : IsLocal Anything (List.map Piece.bare) quotedValue := by
  intro text found rest read
  unfold quotedValue at read
  split at read
  · cases read
  · obtain ⟨taken, rfl, alike⟩ := pieces_local (by decide) read
    exact ⟨'"' :: taken, rfl, alike⟩
  · obtain ⟨taken, rfl, alike⟩ := pieces_local (by decide) read
    exact ⟨'\'' :: taken, rfl, alike⟩
  · cases read

/-- A value is read with the equals sign and the blanks around it. -/
theorem assignedValue_local : IsLocal Anything (List.map Piece.bare) assignedValue := by
  intro text found rest read
  unfold assignedValue at read
  split at read
  · cases read
  · next more left =>
    obtain ⟨whole, cut⟩ := cut_run left
    obtain ⟨stop, taken, value, alike⟩ := quotedValue_local.takes (by rintro _ ⟨⟩) read
    obtain ⟨within, skip⟩ := cut_run value
    refine ⟨text.takeWhile isBlank ++ '=' :: (more.takeWhile isBlank ++ stop :: taken), ?_,
      fun other _ => ?_⟩
    · rw [List.append_assoc, List.cons_append, List.append_assoc, List.cons_append, ← within]
      exact whole
    · have form : text.takeWhile isBlank ++ '=' :: (more.takeWhile isBlank ++ stop :: taken) ++
          other = text.takeWhile isBlank ++
            '=' :: (more.takeWhile isBlank ++ stop :: (taken ++ other)) := by
        simp
      obtain ⟨again, ended, same⟩ := alike other
      refine ⟨again, ?_, same⟩
      rw [form, assignedValue, (cut _).2]
      change quotedValue (List.dropWhile isBlank _) = _
      rw [(skip _).2]
      exact ended
  · cases read

/-- An attribute is read, apart from its place. -/
theorem attributeText_local : IsLocal Anything AttributeText.bare attributeText := by
  intro text found rest read
  unfold attributeText at read
  split at read
  · cases read
  · next name behind named =>
    split at read
    · cases read
    · next value after valued =>
      obtain ⟨rfl, rfl⟩ := Prod.mk.inj (Except.ok.inj read)
      obtain ⟨front, rfl, renamed⟩ := qualifiedName_local.exact named
      obtain ⟨first, taken, rfl, alike⟩ := assignedValue_local.takes (by rintro _ ⟨⟩) valued
      refine ⟨front ++ first :: taken, by simp, fun other _ => ?_⟩
      obtain ⟨again, ended, same⟩ := alike other
      refine ⟨⟨name, front ++ first :: taken ++ other, again⟩, ?_, ?_⟩
      · have named := renamed (first :: (taken ++ other)) rfl
        rw [attributeText, List.append_assoc, List.cons_append, named]
        dsimp only
        rw [ended]
      · rw [AttributeText.bare, AttributeText.bare, same]

/-- A tag ends at its bracket. -/
theorem closeTag_local : IsLocal Anything id closeTag := by
  intro text found rest read
  unfold closeTag at read
  split at read
  · cases read
  · obtain ⟨rfl, rfl⟩ := Prod.mk.inj (Except.ok.inj read)
    exact ⟨['>'], rfl, fun other _ => ⟨_, rfl, rfl⟩⟩
  · cases read
  · obtain ⟨rfl, rfl⟩ := Prod.mk.inj (Except.ok.inj read)
    exact ⟨['/', '>'], rfl, fun other _ => ⟨_, rfl, rfl⟩⟩
  · cases read
  · cases read

/-- After a blank, a tag may end without a further attribute. -/
theorem tagEnd_close {text : List Char} {first : Char} {rest : List Char}
    (blank : text.head?.any isBlank = true) (skipped : text.dropWhile isBlank = first :: rest)
    (other : isNameStart first = false) : tagEnd text = closeTag (first :: rest) := by
  rw [tagEnd, if_pos blank]
  split
  · next nothing =>
    rw [nothing] at skipped
    cases skipped
  · next found more same =>
    obtain ⟨rfl, rfl⟩ := List.cons.inj (skipped.symm.trans same)
    rw [if_neg (by simp [other])]

/-- A blank in front of a text stays there when the text behind the blanks is replaced. -/
theorem blank_stays {text rest : List Char} {first : Char}
    (blank : text.head?.any isBlank = true) (left : text.dropWhile isBlank = first :: rest)
    (other : List Char) :
    (text.takeWhile isBlank ++ other).head?.any isBlank = true := by
  cases text with
  | nil => cases left
  | cons character more =>
    rw [List.takeWhile_cons_of_pos (by simpa using blank)]
    exact blank

/-- The attributes of a tag are read up to its end. -/
theorem tagEnd_local : IsLocal Anything TagEnd.bare tagEnd := by
  intro text found rest read
  fun_induction tagEnd text generalizing found with
  | case1 => cases read
  | case2 => cases read
  | case3 => cases read
  | case4 text blank first more same starts entry after entryRead shorter others ending restRead
      inductionHypothesis =>
    obtain ⟨rfl, rfl⟩ := Prod.mk.inj (Except.ok.inj read)
    obtain ⟨taken, rfl, later⟩ := inductionHypothesis restRead
    obtain ⟨head, front, opens, earlier⟩ := attributeText_local.takes (by rintro _ ⟨⟩) entryRead
    obtain ⟨rfl, rfl⟩ := List.cons.inj opens
    obtain ⟨whole, cut⟩ := cut_run same
    refine ⟨text.takeWhile isBlank ++ first :: (front ++ taken), by simpa using whole,
      fun other _ => ?_⟩
    obtain ⟨entries, closed, bare⟩ := later other trivial
    obtain ⟨known, found, alike⟩ := earlier (taken ++ other)
    have form : text.takeWhile isBlank ++ first :: (front ++ taken) ++ other =
        text.takeWhile isBlank ++ first :: (front ++ (taken ++ other)) := by simp
    refine ⟨⟨known :: entries.attributes, entries.closed⟩, ?_, ?_⟩
    · rw [form, tagEnd_attribute (blank_stays blank same _) (cut _).2 starts found, closed]
    · obtain ⟨attributes, closing⟩ := TagEnd.mk.inj bare
      simp only [TagEnd.bare, List.map_cons, alike, attributes, closing]
  | case5 text blank first more same notStart =>
    obtain ⟨head, taken, closing, alike⟩ := closeTag_local.takes (by rintro _ ⟨⟩) read
    obtain ⟨rfl, rfl⟩ := List.cons.inj closing
    obtain ⟨whole, cut⟩ := cut_run same
    refine ⟨text.takeWhile isBlank ++ first :: taken, by simpa using whole, fun other _ => ?_⟩
    obtain ⟨again, ended, rfl⟩ := alike other
    refine ⟨again, ?_, rfl⟩
    have form : text.takeWhile isBlank ++ first :: taken ++ other =
        text.takeWhile isBlank ++ first :: (taken ++ other) := by simp
    rw [form, tagEnd_close (blank_stays blank same _) (cut _).2 (by simpa using notStart)]
    exact ended
  | case6 text solid =>
    obtain ⟨head, taken, rfl, alike⟩ := closeTag_local.takes (by rintro _ ⟨⟩) read
    refine ⟨head :: taken, rfl, fun other _ => ?_⟩
    obtain ⟨again, ended, rfl⟩ := alike other
    have stays : ¬ (head :: (taken ++ other)).head?.any isBlank = true := solid
    refine ⟨again, ?_, rfl⟩
    rw [List.cons_append, tagEnd, if_neg stays]
    exact ended

/-! ## Sections and tags -/

/-- The word that begins a section is taken off. -/
theorem eq_of_sectionWord {word text rest : List Char} (read : sectionWord word text = .ok rest) :
    text = word ++ rest := by
  fun_induction sectionWord word text with
  | case1 text => exact Except.ok.inj read
  | case2 => cases read
  | case3 expected word more inductionHypothesis =>
    rw [inductionHypothesis read]
    rfl
  | case4 => cases read

/-- The word that begins a section is found in front of every text. -/
theorem sectionWord_append (word rest : List Char) :
    sectionWord word (word ++ rest) = .ok rest := by
  induction word with
  | nil => rfl
  | cons expected word inductionHypothesis =>
    rw [List.cons_append, sectionWord, if_pos rfl, inductionHypothesis]

/-- A section ends in three characters. -/
theorem sectionBody_long {text body rest : List Char} (read : sectionBody text = .ok (body, rest)) :
    2 < text.length := by
  fun_induction sectionBody text generalizing body rest with
  | case1 | case2 | case3 | case4 | case6 | case8 | case10 => cases read
  | case5 more => simp
  | case7 more inner after ended inductionHypothesis =>
    exact Nat.lt_succ_of_lt (Nat.lt_succ_of_lt (inductionHypothesis ended))
  | case9 character more _ _ _ _ _ allowed inner after ended inductionHypothesis =>
    exact Nat.lt_succ_of_lt (inductionHypothesis ended)

/-- A section is read up to its end. -/
theorem sectionBody_local : IsLocal Anything id sectionBody := by
  intro text found rest read
  fun_induction sectionBody text generalizing found with
  | case1 | case2 | case3 | case4 | case6 | case8 | case10 => cases read
  | case5 more =>
    obtain ⟨rfl, rfl⟩ := Prod.mk.inj (Except.ok.inj read)
    exact ⟨[']', ']', '>'], rfl, fun other _ => ⟨_, rfl, rfl⟩⟩
  | case7 more body after inner inductionHypothesis =>
    obtain ⟨rfl, rfl⟩ := Prod.mk.inj (Except.ok.inj read)
    obtain ⟨taken, rfl, alike⟩ := inductionHypothesis inner
    refine ⟨'\r' :: '\n' :: taken, rfl, fun other _ => ?_⟩
    obtain ⟨again, ended, rfl⟩ := alike other trivial
    refine ⟨_, ?_, rfl⟩
    rw [List.cons_append, List.cons_append, sectionBody, ended]
    rfl
  | case9 character more _ _ _ notEnd notBreak allowed body after inner inductionHypothesis =>
    obtain ⟨rfl, rfl⟩ := Prod.mk.inj (Except.ok.inj read)
    obtain ⟨taken, rfl, alike⟩ := inductionHypothesis inner
    obtain ⟨_, whole, -⟩ := alike [] trivial
    have long := sectionBody_long whole
    -- two characters behind this one tell what it is
    match taken with
    | [] => simp at long
    | [_] => simp at long
    | first :: second :: taken =>
      refine ⟨character :: first :: second :: taken, rfl, fun other _ => ?_⟩
      obtain ⟨again, ended, rfl⟩ := alike other trivial
      refine ⟨_, ?_, rfl⟩
      rw [List.cons_append, sectionBody, if_pos allowed, ended]
      · rfl
      · rintro rfl ⟨⟩
      · rintro rfl ⟨⟩
      · rintro rfl ⟨⟩
      · rintro ending rfl ⟨⟩
        exact notEnd _ rfl rfl
      · rintro ending rfl ⟨⟩
        exact notBreak _ rfl rfl

/-- A section is read with the word that begins it. -/
theorem literalSection_local (start : List Char) :
    ∀ {text found rest}, literalSection start text = .ok (found, rest) →
      ∃ taken, text = taken ++ rest ∧
        ∀ begin other, literalSection begin (taken ++ other) = .ok (found, other) := by
  intro text found rest read
  unfold literalSection at read
  split at read
  · cases read
  · split at read
    · cases read
    · next word =>
      split at read
      · cases read
      · next body after inner =>
        obtain ⟨rfl, rfl⟩ := Prod.mk.inj (Except.ok.inj read)
        obtain ⟨taken, rfl, alike⟩ := sectionBody_local.exact inner
        refine ⟨"CDATA[".toList ++ taken, (eq_of_sectionWord word).trans ?_, fun begin other => ?_⟩
        · simp
        · have enough : ¬ byteCount (("CDATA[".toList ++ (taken ++ other)).take 6) < 6 :=
            Nat.lt_irrefl 6
          rw [List.append_assoc, literalSection, if_neg enough, sectionWord_append]
          dsimp only
          rw [alike other trivial]

/-- An end tag ends at its bracket. -/
theorem closeEndTag_local (name : List Char) : IsLocal Anything id (closeEndTag name) := by
  intro text found rest read
  unfold closeEndTag at read
  split at read
  · cases read
  · next more left =>
    obtain ⟨rfl, rfl⟩ := Prod.mk.inj (Except.ok.inj read)
    obtain ⟨whole, cut⟩ := cut_run left
    refine ⟨text.takeWhile isBlank ++ ['>'], by simpa using whole, fun other _ => ⟨_, ?_, rfl⟩⟩
    rw [List.append_assoc, List.singleton_append, closeEndTag, (cut other).2]
    rfl
  · cases read

/-- What begins a name stands in an end tag. -/
theorem isEndTagCharacter_of_isNameStart {character : Char}
    (starts : isNameStart character = true) : isEndTagCharacter character = true := by
  rw [isEndTagCharacter, isNameCharacter_of_isNameStart starts, Bool.true_or]

/-- An end tag is read in the same way in front of every text. -/
theorem endTag_local : IsLocal Anything id endTag := by
  intro text found rest read
  unfold endTag at read
  split at read
  · cases read
  · next first more =>
    split at read
    · next starts =>
      obtain ⟨taken, rfl, alike⟩ := run_local isEndTagCharacter closeEndTag closeEndTag_local
        (fun run value => by rintro ⟨⟩) (isEndTagCharacter_of_isNameStart starts) read
      refine ⟨first :: taken, rfl, fun other _ => ?_⟩
      rw [List.cons_append, endTag, if_pos starts]
      exact alike other
    · cases read

/-- A start tag is read in the same way in front of every text, apart from places. -/
theorem startTag_local : IsLocal Anything Token.bare startTag := by
  intro text found rest read
  unfold startTag at read
  split at read
  · cases read
  · next name behind named =>
    split at read
    · cases read
    · next ending after ended =>
      obtain ⟨rfl, rfl⟩ := Prod.mk.inj (Except.ok.inj read)
      obtain ⟨front, rfl, renamed⟩ := qualifiedName_local.exact named
      have nonempty (value : TagEnd × List Char) : tagEnd [] ≠ .ok value := by
        rw [tagEnd]
        rintro ⟨⟩
      obtain ⟨first, taken, rfl, alike⟩ := tagEnd_local.takes nonempty ended
      refine ⟨front ++ first :: taken, by simp, fun other _ => ?_⟩
      obtain ⟨again, closed, same⟩ := alike other
      refine ⟨.opening name again, ?_, ?_⟩
      · rw [startTag, List.append_assoc, List.cons_append, renamed (first :: (taken ++ other)) rfl]
        dsimp only
        rw [closed]
      · rw [Token.bare, Token.bare, same]

/-! ## Tokens -/

/-- An instruction inside an element is read in the same way in front of every text. -/
theorem contentInstruction_local {start text rest : List Char} {found : Token}
    (read : contentInstruction start text = .ok (found, rest)) :
    ∃ taken, text = taken ++ rest ∧
      ∀ begin other, contentInstruction begin (taken ++ other) = .ok (found, other) := by
  unfold contentInstruction at read
  split at read
  · cases read
  · next known after inner =>
    split at read
    · cases read
    · next plain =>
      obtain ⟨rfl, rfl⟩ := Prod.mk.inj (Except.ok.inj read)
      obtain ⟨taken, rfl, alike⟩ := instruction_local.exact inner
      refine ⟨taken, rfl, fun begin other => ?_⟩
      rw [contentInstruction, alike other trivial]
      dsimp only
      rw [if_neg plain]

/-- A comment is read in the same way in front of every text. -/
theorem comment_local {text rest : List Char} (read : comment text = .ok rest) :
    ∃ taken, text = taken ++ rest ∧ ∀ other, comment (taken ++ other) = .ok other := by
  unfold comment at read
  split at read
  · cases read
  · obtain ⟨taken, rfl, alike⟩ := commentBody_local read
    exact ⟨'-' :: taken, rfl, alike⟩
  · cases read

/-- And inside an element. -/
theorem contentComment_local {start text rest : List Char} {found : Token}
    (read : contentComment start text = .ok (found, rest)) :
    ∃ taken, text = taken ++ rest ∧
      ∀ begin other, contentComment begin (taken ++ other) = .ok (found, other) := by
  unfold contentComment at read
  split at read
  · cases read
  · next after inner =>
    obtain ⟨rfl, rfl⟩ := Prod.mk.inj (Except.ok.inj read)
    obtain ⟨taken, rfl, alike⟩ := comment_local inner
    refine ⟨taken, rfl, fun begin other => ?_⟩
    rw [contentComment, alike other]

/-- A result that is located by the start of its token. -/
theorem located_local {α β γ : Type} {bare : α → γ}
    {reader : List Char → Except Stop (α × List Char)} (settled : IsLocal Anything bare reader)
    {start text rest : List Char} {wrap : α → β} {found : β}
    (read : located start wrap (reader text) = .ok (found, rest)) :
    ∃ value, found = wrap value ∧ ∃ taken, text = taken ++ rest ∧ ∀ begin other, ∃ again,
      located begin wrap (reader (taken ++ other)) = .ok (wrap again, other) ∧
        bare again = bare value := by
  unfold located at read
  split at read
  · cases read
  · next value after inner =>
    obtain ⟨rfl, rfl⟩ := Prod.mk.inj (Except.ok.inj read)
    obtain ⟨taken, rfl, alike⟩ := settled inner
    refine ⟨value, rfl, taken, rfl, fun begin other => ?_⟩
    obtain ⟨again, ended, same⟩ := alike other trivial
    exact ⟨again, by rw [ended, located], same⟩

/-- What begins with a bracket is read in the same way in front of every text. -/
theorem angled_local : IsLocal Anything Token.bare angled := by
  intro text found rest read
  unfold angled at read
  split at read
  · cases read
  · next more =>
    obtain ⟨name, rfl, taken, rfl, alike⟩ := located_local endTag_local read
    refine ⟨'/' :: taken, rfl, fun other _ => ?_⟩
    obtain ⟨again, ended, rfl⟩ := alike ('<' :: '/' :: taken ++ other) other
    exact ⟨_, ended, rfl⟩
  · cases read
  · next more =>
    obtain ⟨taken, rfl, alike⟩ := contentComment_local read
    exact ⟨'!' :: '-' :: taken, rfl, fun other _ => ⟨_, alike _ other, rfl⟩⟩
  · next more =>
    obtain ⟨taken, rfl, alike⟩ := literalSection_local _ read
    exact ⟨'!' :: '[' :: taken, rfl, fun other _ => ⟨_, alike _ other, rfl⟩⟩
  · cases read
  · next more =>
    obtain ⟨taken, rfl, alike⟩ := contentInstruction_local read
    exact ⟨'?' :: taken, rfl, fun other _ => ⟨_, alike _ other, rfl⟩⟩
  · next first more _ _ _ _ _ _ =>
    split at read
    · next starts =>
      obtain ⟨tag, shorter⟩ := length_located read
      have strictly := length_startTag shorter
      obtain ⟨tag, rfl, taken, whole, alike⟩ := located_local startTag_local read
      cases taken with
      | nil =>
        rw [whole] at strictly
        exact absurd strictly (Nat.lt_irrefl _)
      | cons head taken =>
        rw [List.cons_append] at whole
        obtain ⟨rfl, rfl⟩ := List.cons.inj whole
        refine ⟨first :: taken, rfl, fun other _ => ?_⟩
        obtain ⟨again, ended, same⟩ := alike ('<' :: first :: taken ++ other) other
        refine ⟨again, ?_, same⟩
        exact (token_name starts (taken ++ other)).trans ended
    · cases read

/-- Up to the next tag, nothing else stands in the other text. -/
def NoMore (rest other : List Char) : Prop :=
  ∀ front, '<' ∉ front → front <+: other → front <+: rest

/-- A token is read in the same way in front of every text in which nothing else stands before
the next tag. -/
theorem token_local (first : Char) : IsLocal NoMore Token.bare (token first) := by
  intro text found rest read
  unfold token at read
  split at read
  · next angle =>
    obtain ⟨taken, rfl, alike⟩ := angled_local read
    refine ⟨taken, rfl, fun other _ => ?_⟩
    unfold token
    rw [if_pos angle]
    exact alike other trivial
  · next notAngle =>
    split at read
    · next ampersand =>
      obtain ⟨target, rfl, taken, rfl, alike⟩ := located_local reference_local read
      refine ⟨taken, rfl, fun other _ => ?_⟩
      obtain ⟨again, ended, rfl⟩ := alike (first :: (taken ++ other)) other
      unfold token
      rw [if_neg notAngle, if_pos ampersand]
      exact ⟨_, ended, rfl⟩
    · next notAmpersand =>
      split at read
      · next carriage =>
        split at read
        · next after =>
          obtain ⟨rfl, rfl⟩ := Prod.mk.inj (Except.ok.inj read)
          refine ⟨['\n'], rfl, fun other _ => ⟨_, ?_, rfl⟩⟩
          unfold token
          rw [if_neg notAngle, if_neg notAmpersand, if_pos carriage]
          rfl
        · next alone =>
          obtain ⟨rfl, rfl⟩ := Prod.mk.inj (Except.ok.inj read)
          refine ⟨[], rfl, fun other same => ⟨.character '\n', ?_, rfl⟩⟩
          rw [List.nil_append]
          unfold token
          rw [if_neg notAngle, if_neg notAmpersand, if_pos carriage]
          split
          · next after =>
            obtain ⟨more, whole⟩ := same ['\n'] (by decide) ⟨after, rfl⟩
            exact (alone more whole.symm).elim
          · rfl
      · next notCarriage =>
        split at read
        · cases read
        · next allowed =>
          split at read
          · next bracket =>
            split at read
            · cases read
            · next alone =>
              obtain ⟨rfl, rfl⟩ := Prod.mk.inj (Except.ok.inj read)
              refine ⟨[], rfl, fun other same => ⟨.character ']', ?_, rfl⟩⟩
              rw [List.nil_append]
              unfold token
              rw [if_neg notAngle, if_neg notAmpersand, if_neg notCarriage, if_neg allowed,
                if_pos bracket]
              split
              · next after =>
                obtain ⟨more, whole⟩ := same [']', '>'] (by decide) ⟨after, rfl⟩
                exact (alone more whole.symm).elim
              · rfl
          · next notBracket =>
            obtain ⟨rfl, rfl⟩ := Prod.mk.inj (Except.ok.inj read)
            refine ⟨[], rfl, fun other _ => ⟨.character first, ?_, rfl⟩⟩
            rw [List.nil_append]
            unfold token
            rw [if_neg notAngle, if_neg notAmpersand, if_neg notCarriage, if_neg allowed,
              if_neg notBracket]

end LintReview.Markup
