import LintReview.Proofs.Diff.FileHeaders
import LintReview.Proofs.Diff.QuotedNames

/-!
# Names in octal digits

Unless it is told otherwise, the version control writes a name in printable ASCII. A name of
other characters, or with a double quote or a backslash, stands between double quotes: special
characters are escaped as in any quoted name, and every byte of a character that is not in ASCII
becomes a backslash and three octal digits (`octalWritten`). Reading undoes this for every name,
since what the escapes spell are the bytes of the name (`read_octalWritten`).

The opening line of a file has two such names with a blank between them, and blanks of the names
are written as they are. It is cut at the last blank with a name of the new side behind it. That
is the one between the names unless the new path goes on, behind a blank of its own, like another
name of the new side (`Forks`, `openingNames?_octal`).
-/

namespace LintReview.Diff

namespace Path

/-- A character that is written as it is everywhere: one in ASCII that is not special. -/
def isBare (character : Char) : Bool := character.toNat < 128 && !isSpecial character

/-- A byte as an escape with three octal digits. -/
def octalByte (byte : UInt8) : List Char :=
  ['\\', octalDigit (byte.toNat / 64), octalDigit (byte.toNat / 8 % 8),
    octalDigit (byte.toNat % 8)]

/-- A character between quotes: one in ASCII as in any quoted name, any other by its bytes. -/
def octalSpelled (character : Char) : List Char :=
  if character.toNat < 128 then spelled character
  else (Text.encodeCharacter character).flatMap octalByte

/-- The way a name is written with all its bytes in ASCII. -/
def octalWritten (name : List Char) : List Char :=
  if name.all isBare then name else '"' :: (name.flatMap octalSpelled ++ ['"'])

/-! ## Characters between quotes -/

/-- A bare character is spelled as it is. -/
theorem octalSpelled_bare {character : Char} (bare : isBare character = true) :
    octalSpelled character = [character] := by
  simp only [isBare, Bool.and_eq_true, decide_eq_true_eq, Bool.not_eq_true'] at bare
  rw [octalSpelled, if_pos bare.1, spelled, bare.2, if_neg Bool.false_ne_true]

/-- The spelling of any other character begins with a backslash. -/
theorem octalSpelled_escaped {character : Char} (other : isBare character = false) :
    ∃ rest, octalSpelled character = '\\' :: rest := by
  by_cases ascii : character.toNat < 128
  · have special : isSpecial character = true := by simpa [isBare, ascii] using other
    rw [octalSpelled, if_pos ascii, spelled, if_pos special, escape]
    split
    · exact ⟨_, rfl⟩
    · exact ⟨_, rfl⟩
  · obtain ⟨lead, others, bytes, -⟩ := Text.firstPiece_encodeCharacter character []
    rw [octalSpelled, if_neg ascii, bytes, List.flatMap_cons]
    exact ⟨_, rfl⟩

/-- A letter of an escape is printable, and no blank. -/
theorem printable_escapeLetter? {character letter : Char}
    (found : escapeLetter? character = some letter) : 32 < letter.toNat ∧ letter.toNat < 127 := by
  unfold escapeLetter? at found
  split at found <;> cases found <;> decide

/-- An octal digit is printable, and no blank. -/
theorem printable_octalDigit (value : Nat) (small : value < 8) :
    32 < (octalDigit value).toNat ∧ (octalDigit value).toNat < 127 := by
  have all : ∀ value : Fin 8,
      32 < (octalDigit value).toNat ∧ (octalDigit value).toNat < 127 := by decide
  exact all ⟨value, small⟩

/-- A number in three octal digits behind a backslash is printable, and has no blank. -/
theorem printable_octalDigits {value : Nat} (small : value < 512) :
    ∀ mark ∈ ['\\', octalDigit (value / 64), octalDigit (value / 8 % 8), octalDigit (value % 8)],
      32 < mark.toNat ∧ mark.toNat < 127 := by
  have first := printable_octalDigit (value / 64) (by omega)
  have second := printable_octalDigit (value / 8 % 8) (by omega)
  have third := printable_octalDigit (value % 8) (by omega)
  simp only [List.forall_mem_cons, List.not_mem_nil, false_implies, implies_true, and_true]
  exact ⟨by decide, first, second, third⟩

/-- A byte in octal digits is printable, and has no blank. -/
theorem printable_octalByte (byte : UInt8) :
    ∀ mark ∈ octalByte byte, 32 < mark.toNat ∧ mark.toNat < 127 := by
  have bound := byte.toNat_lt
  apply printable_octalDigits
  omega

/-- The escape of a special character is printable, and has no blank. -/
theorem printable_escape {character : Char} (special : isSpecial character = true) :
    ∀ mark ∈ escape character, 32 < mark.toNat ∧ mark.toNat < 127 := by
  have low := ascii_of_special special
  rw [escape]
  split
  · next letter found =>
    simp only [List.forall_mem_cons, List.not_mem_nil, false_implies, implies_true, and_true]
    exact ⟨by decide, printable_escapeLetter? found⟩
  · apply printable_octalDigits
    omega

/-- What a character other than a blank is spelled with is printable, and has no blank. -/
theorem printable_octalSpelled {character : Char} (solid : character ≠ ' ') :
    ∀ mark ∈ octalSpelled character, 32 < mark.toNat ∧ mark.toNat < 127 := by
  by_cases bare : isBare character = true
  · rw [octalSpelled_bare bare, List.forall_mem_singleton]
    have number : character.toNat ≠ 32 := fun same => solid (Char.toNat_inj.mp same)
    simp only [isBare, isSpecial, isControl, Bool.and_eq_true, Bool.not_eq_true',
      Bool.or_eq_false_iff, decide_eq_true_eq, decide_eq_false_iff_not] at bare
    omega
  · by_cases ascii : character.toNat < 128
    · have special : isSpecial character = true := by simpa [isBare, ascii] using bare
      rw [octalSpelled, if_pos ascii, spelled, if_pos special]
      exact printable_escape special
    · rw [octalSpelled, if_neg ascii]
      intro mark member
      obtain ⟨byte, -, inside⟩ := List.mem_flatMap.mp member
      exact printable_octalByte byte mark inside

/-- What a name is spelled with between quotes is printable. -/
theorem printable_spelledName (name : List Char) :
    ∀ mark ∈ name.flatMap octalSpelled, 32 ≤ mark.toNat ∧ mark.toNat < 127 := by
  intro mark member
  obtain ⟨character, -, inside⟩ := List.mem_flatMap.mp member
  by_cases blank : character = ' '
  · subst blank
    obtain rfl : mark = ' ' := List.mem_singleton.mp inside
    decide
  · have printable := printable_octalSpelled blank mark inside
    omega

/-! ## Reading -/

/-- Bytes in octal digits are read as their numbers. -/
theorem unescape_octalBytes (bytes : List UInt8) (rest : List Char) :
    unescape .plain (bytes.flatMap octalByte ++ rest) =
      (bytes.map UInt8.toNat ++ ·) <$> unescape .plain rest := by
  induction bytes with
  | nil => simp
  | cons byte others inductionHypothesis =>
    have bound := byte.toNat_lt
    rw [List.flatMap_cons, List.append_assoc, octalByte, List.cons_append, List.cons_append,
      List.cons_append, List.singleton_append, unescape_octal (by omega), inductionHypothesis]
    simp [Function.comp_def]

/-- The spelling of a character is read as the numbers of its bytes. -/
theorem unescape_octalSpelled (character : Char) (rest : List Char) :
    unescape .plain (octalSpelled character ++ rest) =
      ((Text.encodeCharacter character).map UInt8.toNat ++ ·) <$> unescape .plain rest := by
  by_cases ascii : character.toNat < 128
  · have number : (UInt8.ofNat character.toNat).toNat = character.toNat :=
      Text.toNat_byte (by omega)
    have byte : (Text.encodeCharacter character).map UInt8.toNat = [character.toNat] := by
      simp [Text.encodeCharacter, ascii, number]
    rw [octalSpelled, if_pos ascii, byte, spelled]
    by_cases special : isSpecial character = true
    · rw [if_pos special]
      exact unescape_escape special rest
    · have other : character ≠ '\\' := by
        rintro rfl
        exact special rfl
      rw [if_neg special]
      exact unescape_character other rest
  · rw [octalSpelled, if_neg ascii]
    exact unescape_octalBytes _ rest

/-- What stands between the quotes of a name is read as the numbers of its bytes. -/
theorem unescape_spelledName (name : List Char) :
    unescape .plain (name.flatMap octalSpelled) = some ((Text.encode name).map UInt8.toNat) := by
  induction name with
  | nil => rfl
  | cons character rest inductionHypothesis =>
    have bytes : Text.encode (character :: rest) =
        Text.encodeCharacter character ++ Text.encode rest := List.flatMap_cons
    rw [List.flatMap_cons, unescape_octalSpelled, inductionHypothesis, bytes, List.map_append]
    rfl

/-- A written name is read as the name. -/
theorem unquote_octalWritten (name : List Char) : unquote (octalWritten name) = .ok name := by
  by_cases bare : name.all isBare = true
  · rw [octalWritten, if_pos bare]
    apply unquote_bare
    intro first
    have quote := List.all_eq_true.mp bare '"' (List.mem_of_head? first)
    exact absurd quote (by decide)
  · have ascii : ∀ mark ∈ name.flatMap octalSpelled, mark.toNat < 128 := fun mark member => by
      have printable := printable_spelledName name mark member
      omega
    have spells : unescape .plain (spellAscii (name.flatMap octalSpelled)) =
        some ((Text.encode name).map UInt8.toNat) := by
      rw [spellAscii_eq ascii, unescape_spelledName]
    have narrow : ((Text.encode name).map UInt8.toNat).all (· < 256) = true := by
      simp only [List.all_map, List.all_eq_true, Function.comp_apply, decide_eq_true_eq]
      exact fun byte _ => byte.toNat_lt
    have bytes : ((Text.encode name).map UInt8.toNat).map UInt8.ofNat = Text.encode name := by
      simp [Function.comp_def]
    rw [octalWritten, if_neg bare, unquote_quotes spells, if_pos narrow, bytes,
      Text.decodeReplacing_encode]

/-- The written name of a path on either side is read as the path. -/
theorem read_octalWritten {side : Char} (known : side = 'a' ∨ side = 'b') (path : List Char) :
    read (octalWritten (onOneSide side path)) = .ok path := by
  rw [read, unquote_octalWritten]
  rcases known with rfl | rfl
  · rfl
  · rfl

/-! ## Blanks between quotes -/

/-- What has no blank stands in front of the first blank as a whole. -/
theorem solid_front {solid rest front back : List Char} (unbroken : ' ' ∉ solid)
    (same : solid ++ rest = front ++ ' ' :: back) :
    ∃ more, front = solid ++ more ∧ rest = more ++ ' ' :: back := by
  induction solid generalizing front with
  | nil => exact ⟨front, rfl, same⟩
  | cons character others inductionHypothesis =>
    rw [List.mem_cons, not_or] at unbroken
    cases front with
    | nil => exact absurd (List.cons.inj same).1.symm unbroken.1
    | cons first remaining =>
      obtain ⟨rfl, later⟩ := List.cons.inj same
      obtain ⟨more, rfl, behind⟩ := inductionHypothesis unbroken.2 later
      exact ⟨more, rfl, behind⟩

/-- A blank in what a name is spelled with stands for a blank of the name.

    By induction on the name. The spelling of any other character has no blank, so it ends in
    front of the one that is looked for. -/
theorem spelledName_blank {name front back : List Char}
    (same : name.flatMap octalSpelled = front ++ ' ' :: back) :
    ∃ before after, name = before ++ ' ' :: after ∧ before.flatMap octalSpelled = front ∧
      after.flatMap octalSpelled = back := by
  induction name generalizing front with
  | nil => simp at same
  | cons character rest inductionHypothesis =>
    rw [List.flatMap_cons] at same
    by_cases blank : character = ' '
    · subst blank
      have spelling : octalSpelled ' ' = [' '] := rfl
      rw [spelling, List.singleton_append] at same
      cases front with
      | nil => exact ⟨[], rest, rfl, rfl, (List.cons.inj same).2⟩
      | cons first others =>
        obtain ⟨rfl, later⟩ := List.cons.inj same
        obtain ⟨before, after, rfl, rfl, rfl⟩ := inductionHypothesis later
        exact ⟨' ' :: before, after, rfl, rfl, rfl⟩
    · have unbroken : ' ' ∉ octalSpelled character := fun member =>
        absurd (printable_octalSpelled blank ' ' member).1 (by decide)
      obtain ⟨more, rfl, later⟩ := solid_front unbroken same
      obtain ⟨before, after, rfl, rfl, rfl⟩ := inductionHypothesis later
      exact ⟨character :: before, after, rfl, rfl, rfl⟩

/-- Any character but a backslash at the start of what a name is spelled with is the first of the
    name. -/
theorem spelledName_first {name rest : List Char} {first : Char} (other : first ≠ '\\')
    (same : name.flatMap octalSpelled = first :: rest) :
    isBare first = true ∧ ∃ others, name = first :: others ∧
      others.flatMap octalSpelled = rest := by
  cases name with
  | nil => cases same
  | cons character others =>
    rw [List.flatMap_cons] at same
    by_cases bare : isBare character = true
    · rw [octalSpelled_bare bare, List.singleton_append] at same
      obtain ⟨rfl, later⟩ := List.cons.inj same
      exact ⟨bare, others, rfl, later⟩
    · obtain ⟨more, spelling⟩ := octalSpelled_escaped (by simpa using bare)
      rw [spelling] at same
      exact absurd (List.cons.inj same).1.symm other

/-! ## The opening line -/

/-- The closing quote stands behind every blank. -/
theorem closing_quote {text front back : List Char}
    (same : text ++ ['"'] = front ++ ' ' :: back) :
    ∃ inner, text = front ++ ' ' :: inner ∧ back = inner ++ ['"'] := by
  rcases List.eq_nil_or_concat back with rfl | ⟨inner, last, rfl⟩
  · have ends := congrArg List.getLast? same
    simp at ends
  · rw [List.concat_eq_append] at same ⊢
    rw [← List.cons_append, ← List.append_assoc] at same
    obtain ⟨inside, ends⟩ := List.append_inj' same rfl
    cases ends
    exact ⟨inner, inside, rfl⟩

/-- Where the rest of a quoted name could be a name of the new side, what it is spelled from
    begins with that side. -/
theorem spelledName_side {name rest : List Char} {next : Char}
    (shape : name.flatMap octalSpelled ++ ['"'] = 'b' :: '/' :: next :: rest ∨
      name.flatMap octalSpelled ++ ['"'] = '"' :: 'b' :: '/' :: next :: rest) :
    ∃ others, name = 'b' :: '/' :: others := by
  cases spelling : name.flatMap octalSpelled with
  | nil => simp [spelling] at shape
  | cons first later =>
    rw [spelling] at shape
    rcases shape with same | same
    · obtain ⟨rfl, later_same⟩ := List.cons.inj same
      obtain ⟨-, others, rfl, rest_spelling⟩ := spelledName_first (by decide) spelling
      cases later with
      | nil => exact absurd (List.cons.inj later_same).1 (by decide)
      | cons second more =>
        obtain ⟨rfl, -⟩ := List.cons.inj later_same
        obtain ⟨-, remaining, rfl, -⟩ := spelledName_first (by decide) rest_spelling
        exact ⟨remaining, rfl⟩
    · obtain rfl := (List.cons.inj same).1
      -- a double quote is never spelled as it is
      have bare := (spelledName_first (by decide) spelling).1
      exact absurd bare (by decide)

/-- Behind a blank the path goes on like a name of the new side. Where the name is quoted, the
    closing quote is enough of a name behind the side. -/
def Forks (path : List Char) : Prop :=
  ∃ front back, path = front ++ ' ' :: 'b' :: '/' :: back ∧
    (back ≠ [] ∨ path.all isBare = false)

instance (path : List Char) : Decidable (Forks path) :=
  decidable_of_iff
    (∃ cut ∈ spaceCuts path, cut.2.take 2 = ['b', '/'] ∧
      (cut.2.drop 2 ≠ [] ∨ path.all isBare = false))
    ⟨fun ⟨(front, rest), member, side, goesOn⟩ =>
        ⟨front, rest.drop 2, by
          have split := List.take_append_drop 2 rest
          rw [side] at split
          rw [Written.mem_spaceCuts_iff.mp member, ← split]
          rfl, goesOn⟩,
      fun ⟨front, back, same, goesOn⟩ =>
        ⟨(front, 'b' :: '/' :: back), Written.mem_spaceCuts_iff.mpr same, rfl, goesOn⟩⟩

/-- A path is written as it is, with its side, or spelled between quotes. -/
theorem octalWritten_side {side : Char} (known : side = 'a' ∨ side = 'b') (path : List Char) :
    octalWritten (onOneSide side path) =
      if path.all isBare then side :: '/' :: path
      else '"' :: side :: '/' :: (path.flatMap octalSpelled ++ ['"']) := by
  have letter : isBare side = true := by rcases known with rfl | rfl <;> decide
  have slash : isBare '/' = true := by decide
  have bare : (onOneSide side path).all isBare = path.all isBare := by
    simp [onOneSide, letter, slash]
  have spelling : (onOneSide side path).flatMap octalSpelled =
      side :: '/' :: path.flatMap octalSpelled := by
    rw [onOneSide, List.flatMap_cons, List.flatMap_cons, octalSpelled_bare letter,
      octalSpelled_bare slash]
    rfl
  rw [octalWritten, bare, spelling]
  rfl

/-- The written name of a path that is not empty is on its side. -/
theorem onSide_octalWritten {side : Char} (known : side = 'a' ∨ side = 'b') {path : List Char}
    (nonempty : path ≠ []) : onSide side (octalWritten (onOneSide side path)) = true := by
  have letter : side ≠ '"' := by rcases known with rfl | rfl <;> decide
  rw [Written.onSide_iff letter, octalWritten_side known]
  by_cases bare : path.all isBare = true
  · obtain ⟨first, others, rfl⟩ := List.exists_cons_of_ne_nil nonempty
    exact ⟨first, others, .inl (by rw [if_pos bare])⟩
  · obtain ⟨first, others, spelling⟩ : ∃ first others,
        path.flatMap octalSpelled ++ ['"'] = first :: others :=
      List.exists_cons_of_ne_nil (by simp)
    exact ⟨first, others, .inr (by rw [if_neg bare, spelling])⟩

/-- What a blank of the written new name can have behind it that is a name of the new side: the
    rest of a bare path, or the spelling of such a rest with the closing quote. -/
theorem side_behind_blank {path front rest : List Char}
    (same : octalWritten (onOneSide 'b' path) = front ++ ' ' :: rest)
    (named : onSide 'b' rest = true) :
    ∃ other, rest = 'b' :: '/' :: other ∧
      (path.all isBare = true ∧ other ≠ [] ∧ (∃ more, path = more ++ ' ' :: rest) ∨
        path.all isBare = false ∧ (∃ inner, other = inner ++ ['"']) ∧
          ∃ before after, path = before ++ ' ' :: 'b' :: '/' :: after) := by
  obtain ⟨next, remaining, shape⟩ := (Written.onSide_iff (by decide)).mp named
  rw [octalWritten_side (.inr rfl)] at same
  by_cases bare : path.all isBare = true
  · rw [if_pos bare] at same
    have side : ' ' ∉ ['b', '/'] := by decide
    obtain ⟨more, -, rfl⟩ := solid_front side same
    rcases shape with rfl | rfl
    · exact ⟨next :: remaining, rfl, .inl ⟨bare, List.cons_ne_nil _ _, more, rfl⟩⟩
    · exact absurd bare (by simp [isBare, isSpecial])
  · rw [if_neg bare] at same
    have side : ' ' ∉ ['"', 'b', '/'] := by decide
    obtain ⟨more, -, later⟩ := solid_front side same
    obtain ⟨inner, spelling, rfl⟩ := closing_quote later
    obtain ⟨before, after, rfl, -, rfl⟩ := spelledName_blank spelling
    obtain ⟨others, rfl⟩ := spelledName_side shape
    exact ⟨others.flatMap octalSpelled ++ ['"'], rfl,
      .inr ⟨by simpa using bare, ⟨_, rfl⟩, before, others, rfl⟩⟩

/-- A blank of the written new name has a name of the new side behind it exactly if the path
    forks. -/
theorem forks_iff (path : List Char) :
    Forks path ↔ ∃ front back, octalWritten (onOneSide 'b' path) = front ++ ' ' :: back ∧
      onSide 'b' back = true := by
  have letter : 'b' ≠ '"' := by decide
  rw [octalWritten_side (.inr rfl)]
  constructor
  · rintro ⟨front, back, rfl, goesOn⟩
    by_cases bare : (front ++ ' ' :: 'b' :: '/' :: back).all isBare = true
    · have nonempty : back ≠ [] := goesOn.resolve_right (by simp [bare])
      obtain ⟨next, rest, rfl⟩ := List.exists_cons_of_ne_nil nonempty
      refine ⟨'b' :: '/' :: front, 'b' :: '/' :: next :: rest, ?_, ?_⟩
      · rw [if_pos bare]
        rfl
      · exact (Written.onSide_iff letter).mpr ⟨next, rest, .inl rfl⟩
    · obtain ⟨next, rest, spelling⟩ : ∃ next rest,
          back.flatMap octalSpelled ++ ['"'] = next :: rest :=
        List.exists_cons_of_ne_nil (by simp)
      have side : ('b' :: '/' :: back).flatMap octalSpelled =
          'b' :: '/' :: back.flatMap octalSpelled := rfl
      have blank : octalSpelled ' ' = [' '] := rfl
      refine ⟨'"' :: 'b' :: '/' :: front.flatMap octalSpelled, 'b' :: '/' :: next :: rest, ?_, ?_⟩
      · rw [if_neg bare, List.flatMap_append, List.flatMap_cons, blank, side, ← spelling]
        simp
      · exact (Written.onSide_iff letter).mpr ⟨next, rest, .inl rfl⟩
  · rintro ⟨front, rest, same, named⟩
    obtain ⟨other, rfl, bareCase | quotedCase⟩ := side_behind_blank same named
    · obtain ⟨-, nonempty, more, split⟩ := bareCase
      exact ⟨more, other, split, .inl nonempty⟩
    · obtain ⟨quoted, -, before, after, split⟩ := quotedCase
      exact ⟨before, after, split, .inr quoted⟩

/-- Behind the last blank that has a name of the new side behind it stands no path that forks. -/
theorem not_forks_last {path front rest : List Char}
    (same : octalWritten (onOneSide 'b' path) = front ++ ' ' :: rest)
    (named : onSide 'b' rest = true)
    (last : ∀ front back, rest = front ++ ' ' :: back → onSide 'b' back = false) :
    ∃ other, rest = onOneSide 'b' other ∧ ¬ Forks other := by
  obtain ⟨other, rfl, shape⟩ := side_behind_blank same named
  refine ⟨other, rfl, ?_⟩
  rintro ⟨before, after, rfl, goesOn⟩
  cases after with
  | cons next later =>
    have unnamed := last ('b' :: '/' :: before) ('b' :: '/' :: next :: later) rfl
    rw [(Written.onSide_iff (by decide)).mpr ⟨next, later, .inl rfl⟩] at unnamed
    cases unnamed
  | nil =>
    have quoted : (before ++ [' ', 'b', '/']).all isBare = false :=
      goesOn.resolve_left (fun nonempty => nonempty rfl)
    rcases shape with ⟨bare, -, more, rfl⟩ | ⟨-, ⟨inner, ends⟩, -⟩
    · have part : (before ++ [' ', 'b', '/']).all isBare = true := by
        apply List.all_eq_true.mpr
        intro character member
        have inside : character ∈ 'b' :: '/' :: (before ++ [' ', 'b', '/']) :=
          List.mem_cons_of_mem _ (List.mem_cons_of_mem _ member)
        exact List.all_eq_true.mp bare character
          (List.mem_append_right more (List.mem_cons_of_mem _ inside))
      rw [quoted] at part
      cases part
    · have final := congrArg List.getLast? ends
      simp at final

/-- A written name is one field, as it is printable. -/
theorem isField_octalWritten (name : List Char) : Written.IsField (octalWritten name) := by
  have noControl {text : List Char} (printable : ∀ mark ∈ text, 32 ≤ mark.toNat) :
      Written.IsField text :=
    ⟨fun member => absurd (printable '\t' member) (by decide),
      fun member => absurd (printable '\n' member) (by decide)⟩
  by_cases bare : name.all isBare = true
  · rw [octalWritten, if_pos bare]
    apply noControl
    intro mark member
    have kept := List.all_eq_true.mp bare mark member
    simp only [isBare, isSpecial, isControl, Bool.and_eq_true, Bool.not_eq_true',
      Bool.or_eq_false_iff, decide_eq_true_eq, decide_eq_false_iff_not] at kept
    omega
  · rw [octalWritten, if_neg bare]
    have spelled := noControl fun mark member => (printable_spelledName name mark member).1
    have quote : Written.IsField ['"'] := by decide
    exact (spelled.append quote).cons (by decide) (by decide)

end Path

open Written (IsField)
open LintReview.Diff.Path (octalWritten onOneSide Forks)

/-- The opening line of a file is cut between its names if the new path does not fork. If it
    forks, the line is cut inside the new name, and what is read there as the path does not fork
    any more. -/
theorem openingNames?_octal {old new : List Char} (oldNonempty : old ≠ [])
    (newNonempty : new ≠ []) :
    ∃ left right, openingNames? (octalWritten (onOneSide 'a' old) ++
        ' ' :: octalWritten (onOneSide 'b' new) ++ ['\n']) = some (left, right) ∧
      (¬ Forks new → left = octalWritten (onOneSide 'a' old) ∧
        right = octalWritten (onOneSide 'b' new)) ∧
      (Forks new → ∃ other, Path.read right = .ok other ∧ ¬ Forks other) := by
  obtain ⟨left, right, names, cut, last⟩ := Written.openingNames?_sides
    (Path.isField_octalWritten _) (Path.isField_octalWritten _)
    (Path.onSide_octalWritten (.inl rfl) oldNonempty)
    (Path.onSide_octalWritten (.inr rfl) newNonempty)
  refine ⟨left, right, names, ?clear, ?forked⟩
  case clear =>
    intro clear
    rcases cut with whole | ⟨front, same, named⟩
    · exact whole
    · exact absurd ((Path.forks_iff new).mpr ⟨front, right, same, named⟩) clear
  case forked =>
    intro forks
    rcases cut with ⟨-, rfl⟩ | ⟨front, same, named⟩
    · obtain ⟨front, back, same, named⟩ := (Path.forks_iff new).mp forks
      rw [last front back same] at named
      cases named
    · obtain ⟨other, rfl, tame⟩ := Path.not_forks_last same named last
      have bare : (onOneSide 'b' other).head? ≠ some '"' := by simp [onOneSide]
      refine ⟨other, ?_, tame⟩
      rw [Path.read, Path.unquote_bare bare]
      rfl

end LintReview.Diff
