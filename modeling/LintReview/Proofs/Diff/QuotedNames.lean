import LintReview.Proofs.Diff.Patches
import LintReview.Proofs.Text.Utf8
import Mathlib.Algebra.Group.Nat.Defs

/-!
# Names written between quotes

The version control writes a name as it is, unless the name holds a control character, a double
quote or a backslash. Then the name stands between double quotes and these characters are
escaped, by a letter or by three octal digits; all others are written as they are (`written`).

Reading undoes this for every name that needs no quotes, and between quotes for names in ASCII
(`read_written_eq_ok_iff`). A quoted name with any other character is not read back: its
characters are taken for bytes, so that those up to number 255 are decoded a second time, and a
character past them is refused (`unquote_written`).
-/

namespace LintReview.Diff

namespace Path

/-- A control character: one in front of the blank, or the delete character. -/
def isControl (character : Char) : Bool := character.toNat < 32 || character.toNat = 127

/-- A character that a name is not written with as it is. -/
def isSpecial (character : Char) : Bool :=
  isControl character || character = '"' || character = '\\'

/-- What stands after the backslash for a special character that has a letter of its own. -/
def escapeLetter? : Char → Option Char
  | '\x07' => some 'a'
  | '\x08' => some 'b'
  | '\t' => some 't'
  | '\n' => some 'n'
  | '\x0b' => some 'v'
  | '\x0c' => some 'f'
  | '\r' => some 'r'
  | '"' => some '"'
  | '\\' => some '\\'
  | _ => none

/-- An octal digit. -/
def octalDigit (value : Nat) : Char := Char.ofNat (48 + value)

/-- A special character between quotes. -/
def escape (character : Char) : List Char :=
  match escapeLetter? character with
  | some letter => ['\\', letter]
  | none =>
    let code := character.toNat
    ['\\', octalDigit (code / 64), octalDigit (code / 8 % 8), octalDigit (code % 8)]

/-- A character of a name between quotes. -/
def spelled (character : Char) : List Char :=
  if isSpecial character then escape character else [character]

/-- The way a name is written. -/
def written (name : List Char) : List Char :=
  if name.any isSpecial then '"' :: (name.flatMap spelled ++ ['"']) else name

/-! ## Escapes -/

/-- An octal digit has its value. -/
theorem octalValue?_octalDigit (value : Nat) (small : value < 8) :
    octalValue? (octalDigit value) = some value := by
  have all : ∀ value : Fin 8, octalValue? (octalDigit value) = some value.val := by decide
  exact all ⟨value, small⟩

/-- An octal digit is none of the characters that have a meaning after a backslash. -/
theorem octalDigit_ne (value : Nat) (small : value < 8) :
    octalDigit value ∉ ['\n', '\\', '\'', '"', 'x', 'u', 'U', 'N'] := by
  have all : ∀ value : Fin 8,
      octalDigit value ∉ ['\n', '\\', '\'', '"', 'x', 'u', 'U', 'N'] := by decide
  exact all ⟨value, small⟩

/-- A hexadecimal digit has its value. -/
theorem hexValue?_hexDigit (value : Nat) (small : value < 16) :
    hexValue? (Text.hexDigit value) = some value := by
  have all : ∀ value : Fin 16, hexValue? (Text.hexDigit value) = some value.val := by decide
  exact all ⟨value, small⟩

/-- After three octal digits the escape is over. -/
theorem unescape_octal_full (value : Nat) (rest : List Char) :
    unescape (.octal 0 value) rest = (value :: ·) <$> unescape .plain rest := by
  cases rest with
  | nil => rfl
  | cons character rest =>
    by_cases next : character = '\\'
    · simp [unescape, next]
    · simp [unescape, next, Function.comp_def]

/-- Three octal digits are read as their number. -/
theorem unescape_octal {code : Nat} (small : code < 512) (rest : List Char) :
    unescape .plain ('\\' :: octalDigit (code / 64) :: octalDigit (code / 8 % 8) ::
      octalDigit (code % 8) :: rest) = (code :: ·) <$> unescape .plain rest := by
  have first := octalValue?_octalDigit (code / 64) (by omega)
  have second := octalValue?_octalDigit (code / 8 % 8) (by omega)
  have third := octalValue?_octalDigit (code % 8) (by omega)
  have number : (code / 64 * 8 + code / 8 % 8) * 8 + code % 8 = code := by omega
  have other := octalDigit_ne (code / 64) (by omega)
  simp only [List.mem_cons, List.not_mem_nil, or_false, not_or] at other
  simp [unescape, other, first, second, third, number, unescape_octal_full]

/-- Hexadecimal digits are taken up one after the other, as long as more must follow. -/
theorem unescape_hexDigits (width missing value number : Nat) (rest : List Char) :
    unescape (.hexadecimal (width + (missing + 1)) value) (Text.hexDigits width number ++ rest) =
      unescape (.hexadecimal (missing + 1) (value * 16 ^ width + number % 16 ^ width)) rest := by
  induction width generalizing missing number rest with
  | zero => simp [Text.hexDigits, Nat.mod_one]
  | succ width inductionHypothesis =>
    have digit := hexValue?_hexDigit (number % 16) (Nat.mod_lt _ (by decide))
    have more := inductionHypothesis (missing + 1) (number / 16)
      (Text.hexDigit (number % 16) :: rest)
    have total : (value * 16 ^ width + number / 16 % 16 ^ width) * 16 + number % 16 =
        value * 16 ^ (width + 1) + number % 16 ^ (width + 1) := by
      rw [Nat.pow_succ', Nat.mod_mul, Nat.mul_left_comm]
      omega
    have step : unescape (.hexadecimal (missing + 1 + 1)
          (value * 16 ^ width + number / 16 % 16 ^ width)) (Text.hexDigit (number % 16) :: rest) =
        unescape (.hexadecimal (missing + 1)
          ((value * 16 ^ width + number / 16 % 16 ^ width) * 16 + number % 16)) rest := by
      simp only [unescape, digit]
    rw [Text.hexDigits, List.append_assoc, List.singleton_append, Nat.succ_add_eq_add_succ, more,
      step, total]

/-- All digits of an escape are read as its number. -/
theorem unescape_hexadecimal (width : Nat) {code : Nat} (fits : code < 16 ^ (width + 1))
    (bound : code ≤ 0x10ffff) (rest : List Char) :
    unescape (.hexadecimal (width + 1) 0) (Text.hexDigits (width + 1) code ++ rest) =
      (code :: ·) <$> unescape .plain rest := by
  have digit := hexValue?_hexDigit (code % 16) (Nat.mod_lt _ (by decide))
  have front : unescape (.hexadecimal (width + 1) 0)
        (Text.hexDigits width (code / 16) ++ Text.hexDigit (code % 16) :: rest) =
      unescape (.hexadecimal 1 (0 * 16 ^ width + code / 16 % 16 ^ width))
        (Text.hexDigit (code % 16) :: rest) := unescape_hexDigits width 0 0 (code / 16) _
  have upper : code / 16 < 16 ^ width := by
    rw [Nat.div_lt_iff_lt_mul (by decide), ← Nat.pow_succ]
    exact fits
  have total : (0 * 16 ^ width + code / 16 % 16 ^ width) * 16 + code % 16 = code := by
    rw [Nat.mod_eq_of_lt upper]
    omega
  rw [Text.hexDigits, List.append_assoc, List.singleton_append, front]
  simp only [unescape, digit, total, bound, if_true]

/-- A code point that is spelled in hexadecimal is read as itself. -/
theorem unescape_hexEscape {code : Nat} (bound : code ≤ 0x10ffff) (rest : List Char) :
    unescape .plain (Text.hexEscape code ++ rest) = (code :: ·) <$> unescape .plain rest := by
  unfold Text.hexEscape
  split
  · next small => exact unescape_hexadecimal 1 small bound rest
  · split
    · next small => exact unescape_hexadecimal 3 small bound rest
    · exact unescape_hexadecimal 7 (by omega) bound rest

/-- A character that begins no escape is read as itself. -/
theorem unescape_character {character : Char} (other : character ≠ '\\') (rest : List Char) :
    unescape .plain (character :: rest) = (character.toNat :: ·) <$> unescape .plain rest := by
  rw [unescape, if_neg other]

/-- A letter of an escape is in ASCII. -/
theorem ascii_escapeLetter? {character letter : Char}
    (found : escapeLetter? character = some letter) : letter.toNat < 128 := by
  unfold escapeLetter? at found
  split at found <;> cases found <;> decide

/-- A letter of an escape is read as the character that it stands for. -/
theorem unescape_letter {character letter : Char} (found : escapeLetter? character = some letter)
    (rest : List Char) :
    unescape .plain ('\\' :: letter :: rest) = (character.toNat :: ·) <$> unescape .plain rest := by
  unfold escapeLetter? at found
  split at found <;> cases found <;> rfl

/-- An octal digit is in ASCII. -/
theorem ascii_octalDigit (value : Nat) (small : value < 8) : (octalDigit value).toNat < 128 := by
  have all : ∀ value : Fin 8, (octalDigit value).toNat < 128 := by decide
  exact all ⟨value, small⟩

/-- A special character is in ASCII. -/
theorem ascii_of_special {character : Char} (special : isSpecial character = true) :
    character.toNat < 128 := by
  simp only [isSpecial, isControl, Bool.or_eq_true, decide_eq_true_eq] at special
  rcases special with (control | rfl) | rfl
  · omega
  · decide
  · decide

/-- The escape of a special character is in ASCII. -/
theorem ascii_escape {character : Char} (special : isSpecial character = true) :
    ∀ mark ∈ escape character, mark.toNat < 128 := by
  have low := ascii_of_special special
  unfold escape
  split
  · next letter found => simp [ascii_escapeLetter? found]
  · simp [ascii_octalDigit _ (show character.toNat / 64 < 8 by omega),
      ascii_octalDigit _ (show character.toNat / 8 % 8 < 8 by omega),
      ascii_octalDigit _ (show character.toNat % 8 < 8 by omega)]

/-- The escape of a special character is read as the character. -/
theorem unescape_escape {character : Char} (special : isSpecial character = true)
    (rest : List Char) :
    unescape .plain (escape character ++ rest) =
      (character.toNat :: ·) <$> unescape .plain rest := by
  have low := ascii_of_special special
  unfold escape
  split
  · next letter found => exact unescape_letter found rest
  · exact unescape_octal (by omega) rest

/-! ## Names -/

theorem spellAscii_append (first second : List Char) :
    spellAscii (first ++ second) = spellAscii first ++ spellAscii second :=
  List.flatMap_append

/-- A text in ASCII is spelled as it is. -/
theorem spellAscii_eq {text : List Char} (ascii : ∀ character ∈ text, character.toNat < 128) :
    spellAscii text = text := by
  induction text with
  | nil => rfl
  | cons character rest inductionHypothesis =>
    obtain ⟨first, later⟩ := List.forall_mem_cons.mp ascii
    have spelledRest := inductionHypothesis later
    unfold spellAscii at spelledRest ⊢
    rw [List.flatMap_cons, if_pos first, spelledRest, List.singleton_append]

/-- Every character of a name between quotes is read as its code point. -/
theorem unescape_spelled (character : Char) (rest : List Char) :
    unescape .plain (spellAscii (spelled character) ++ rest) =
      (character.toNat :: ·) <$> unescape .plain rest := by
  by_cases special : isSpecial character = true
  · rw [spelled, if_pos special, spellAscii_eq (ascii_escape special)]
    exact unescape_escape special rest
  · rw [spelled, if_neg special]
    by_cases ascii : character.toNat < 128
    · have other : character ≠ '\\' := by
        rintro rfl
        exact special rfl
      rw [spellAscii_eq (List.forall_mem_singleton.mpr ascii)]
      exact unescape_character other rest
    · have bound : character.toNat ≤ 0x10ffff := by
        have valid := character.valid
        simp only [UInt32.isValidChar, Nat.isValidChar] at valid
        simp only [Char.toNat]
        omega
      have wide : spellAscii [character] = Text.hexEscape character.toNat := by
        simp [spellAscii, ascii]
      rw [wide]
      exact unescape_hexEscape bound rest

/-- What stands between the quotes of a name is read as the code points of the name. -/
theorem unescape_name (name : List Char) :
    unescape .plain (spellAscii (name.flatMap spelled)) = some (name.map Char.toNat) := by
  induction name with
  | nil => rfl
  | cons character rest inductionHypothesis =>
    rw [List.flatMap_cons, spellAscii_append, unescape_spelled, inductionHypothesis]
    rfl

/-- What stands between quotes spells code points, which are taken for bytes. -/
theorem unquote_quotes {inside : List Char} {codes : List Nat}
    (spells : unescape .plain (spellAscii inside) = some codes) :
    unquote ('"' :: (inside ++ ['"'])) =
      if codes.all (· < 256) then .ok (Text.decodeReplacing (codes.map UInt8.ofNat))
      else .error .wideCharacter := by
  have last : ('"' :: (inside ++ ['"'])).getLast? = some '"' := by
    rw [← List.cons_append, List.getLast?_concat]
  have between : ('"' :: (inside ++ ['"'])).tail.dropLast = inside := List.dropLast_concat
  have long : ¬ inside.length + 1 + 1 < 2 := by omega
  rw [unquote, last, between, spells]
  simp [long]

/-- A name that does not begin with a quote is read as it is. -/
theorem unquote_bare {name : List Char} (bare : name.head? ≠ some '"') :
    unquote name = .ok name := by
  simp [unquote, bare]

/-- Reading a written name. Without special characters it is the name. Otherwise the characters
    of the name are taken for bytes, and there is no byte for a character past number 255. -/
theorem unquote_written (name : List Char) :
    unquote (written name) =
      if name.any isSpecial then
        if name.all (·.toNat < 256) then .ok (Text.decodeReplacing (Text.numbersOf name))
        else .error .wideCharacter
      else .ok name := by
  unfold written
  by_cases special : name.any isSpecial = true
  · have bytes : (name.map Char.toNat).all (· < 256) = name.all (·.toNat < 256) := List.all_map
    have numbers : (name.map Char.toNat).map UInt8.ofNat = Text.numbersOf name := List.map_map
    rw [if_pos special, if_pos special, unquote_quotes (unescape_name name), bytes, numbers]
  · have bare : name.head? ≠ some '"' := by
      intro first
      exact special (List.any_eq_true.mpr ⟨'"', List.mem_of_head? first, rfl⟩)
    rw [if_neg special, if_neg special, unquote_bare bare]

/-- A path on one of the two sides of a diff. -/
def onOneSide (side : Char) (path : List Char) : List Char := side :: '/' :: path

/-- Reading the written name of a path on one side gives the path back if no character of it is
    special. Otherwise it gives what the numbers of its characters are as bytes of a text. -/
theorem read_written {side : Char} (known : side = 'a' ∨ side = 'b') (path : List Char) :
    read (written (onOneSide side path)) =
      if path.any isSpecial then
        if path.all (·.toNat < 256) then .ok (Text.decodeReplacing (Text.numbersOf path))
        else .error .wideCharacter
      else .ok path := by
  have drops (rest : List Char) : dropSide (side :: '/' :: rest) = rest := by
    rcases known with rfl | rfl <;> rfl
  have sideByte : isSpecial side = false ∧ side.toNat < 128 := by
    rcases known with rfl | rfl <;> decide
  have special : (onOneSide side path).any isSpecial = path.any isSpecial := by
    rw [onOneSide, List.any_cons, List.any_cons, sideByte.1]
    rfl
  have narrow : (onOneSide side path).all (·.toNat < 256) = path.all (·.toNat < 256) := by
    have small : side.toNat < 256 := by omega
    rw [onOneSide, List.all_cons, List.all_cons, decide_eq_true small]
    rfl
  have decoded : Text.decodeReplacing (Text.numbersOf (onOneSide side path)) =
      side :: '/' :: Text.decodeReplacing (Text.numbersOf path) := by
    rw [onOneSide, Text.decodeReplacing_numbersOf_cons _ sideByte.2,
      Text.decodeReplacing_numbersOf_cons _ (by decide)]
  rw [read, unquote_written, special, narrow, decoded]
  split
  · split
    · exact congrArg Except.ok (drops _)
    · rfl
  · exact congrArg Except.ok (drops path)

/-- A path that is read back from its written name: it is in ASCII, or it needs no quotes. -/
def Legible (path : List Char) : Prop :=
  path.any isSpecial = false ∨ ∀ character ∈ path, character.toNat < 128

/-- A written name is read back exactly if its path is legible: between quotes a character that
    is not in ASCII never comes back. -/
theorem read_written_eq_ok_iff {side : Char} (known : side = 'a' ∨ side = 'b') (path : List Char) :
    read (written (onOneSide side path)) = .ok path ↔ Legible path := by
  rw [read_written known, Legible]
  by_cases special : path.any isSpecial = true
  · rw [if_pos special, or_iff_right (by simp [special])]
    by_cases narrow : path.all (·.toNat < 256) = true
    · have small : ∀ character ∈ path, character.toNat < 256 := by simpa using narrow
      rw [if_pos narrow, Except.ok.injEq, Text.decodeReplacing_numbersOf_iff small]
    · rw [if_neg narrow]
      constructor
      · intro refused
        cases refused
      · intro ascii
        refine absurd (List.all_eq_true.mpr fun character member => ?_) narrow
        have low := ascii character member
        exact decide_eq_true (by omega)
  · rw [if_neg special]
    exact iff_of_true rfl (.inl (by simpa using special))

end Path

/-! ## Changes with written names -/

/-- The name stands for no file, or it is the written name of a legible path on the given side. -/
def Path.IsName (side : Char) (name : List Char) : Prop :=
  name = noFile ∨ ∃ path, Path.Legible path ∧ name = Path.written (Path.onOneSide side path)

/-- The path of a written name. -/
theorem pathOf_written {side : Char} (known : side = 'a' ∨ side = 'b') {path : List Char}
    (legible : Path.Legible path) :
    pathOf (Path.written (Path.onOneSide side path)) = .ok (String.ofList path) := by
  rw [pathOf, (Path.read_written_eq_ok_iff known path).mpr legible]

/-- Every such name has a path. -/
theorem Path.IsName.pathOf {side : Char} (known : side = 'a' ∨ side = 'b') {name : List Char}
    (named : Path.IsName side name) : ∃ path, pathOf name = .ok path := by
  rcases named with rfl | ⟨path, legible, rfl⟩
  · exact ⟨"/dev/null", rfl⟩
  · exact ⟨_, pathOf_written known legible⟩

/-- The section of a file with names on both sides has a patch. -/
theorem Section.exists_patch {file : Section} (source : Path.IsName 'a' file.source)
    (target : Path.IsName 'b' file.target) : ∃ patch, file.patch = .ok patch := by
  obtain ⟨old, oldPath⟩ := source.pathOf (.inl rfl)
  obtain ⟨new, newPath⟩ := target.pathOf (.inr rfl)
  unfold Section.patch
  rw [oldPath, newPath]
  by_cases added : file.isAdded = true
  · exact ⟨_, if_pos added⟩
  · exact ⟨_, if_neg added⟩

/-- The written name of a path, on either side, is read back exactly if the path is in ASCII or
    needs no quotes. A diff all of whose names are such written names gives a change, which has
    every file that is not deleted under its path. -/
theorem written_names_read {side : Char} (known : side = 'a' ∨ side = 'b') (path : List Char) :
    (Path.read (Path.written (Path.onOneSide side path)) = .ok path ↔ Path.Legible path) ∧
    (∀ text files, sections text.toList = .ok files →
      (∀ file ∈ files, Path.IsName 'a' file.source ∧ Path.IsName 'b' file.target) →
      ∃ change, Change.ofDiff text = .ok change ∧
        ∀ file ∈ files, file.isRemoved = false → Path.Legible path →
          file.target = Path.written (Path.onOneSide 'b' path) →
          ∃ patch, change.find? (String.ofList path) = some patch ∧
            patch.path = String.ofList path) := by
  refine ⟨Path.read_written_eq_ok_iff known path, ?_⟩
  intro text files read named
  obtain ⟨change, added⟩ := Change.exists_addSections
    (fun file member => Section.exists_patch (named file member).1 (named file member).2) []
  refine ⟨change, (ofDiff_of_sections read).trans added, ?_⟩
  intro file member kept legible target
  have patched : file.patchedPath? = some (String.ofList path) := by
    have onPath := pathOf_written (.inr rfl) legible
    rw [Section.patchedPath?, kept, target, onPath]
    rfl
  obtain ⟨last, found⟩ := exists_sectionOf? member patched
  have stored := find?_addSections added (String.ofList path)
  rw [found] at stored
  obtain ⟨patch, given, known⟩ := stored
  refine ⟨patch, known, ?_⟩
  have onPath := (sectionOf?_eq_some found).2
  rw [Section.patchedPath?, (Section.patch_eq_ok given).1] at onPath
  split at onPath
  · cases onPath
  · exact Option.some.inj onPath

/-- A path with a double quote in it. -/
def quotedPath : List Char := "x\"y.h".toList

/-- A diff that changes the line of a file with a double quote in its name. -/
def quotedDiff : String :=
  "diff --git \"a/x\\\"y.h\" \"b/x\\\"y.h\"\n--- \"a/x\\\"y.h\"\n+++ \"b/x\\\"y.h\"\n" ++
    "@@ -1 +1 @@\n-a\n+b\n"

/-- The section of the file. -/
def quotedSection : Section where
  source := "\"a/x\\\"y.h\"".toList
  target := "\"b/x\\\"y.h\"".toList
  hunks := [⟨1, 1, 1, 1, [], [⟨.removed, "a\n".toList⟩, ⟨.added, "b\n".toList⟩]⟩]

/-- The file with the double quote is found under its path. -/
theorem written_names_read_quoted :
    Path.Legible quotedPath ∧
    Path.read (Path.written (Path.onOneSide 'b' quotedPath)) = .ok quotedPath ∧
    sections quotedDiff.toList = .ok [quotedSection] ∧
    (∀ file ∈ [quotedSection], Path.IsName 'a' file.source ∧ Path.IsName 'b' file.target) ∧
    quotedSection.target = Path.written (Path.onOneSide 'b' quotedPath) ∧
    ∃ change, Change.ofDiff quotedDiff = .ok change ∧
      ∃ patch, change.find? (String.ofList quotedPath) = some patch ∧
        patch.path = String.ofList quotedPath := by
  have ascii : quotedPath.all (·.toNat < 128) = true := rfl
  have legible : Path.Legible quotedPath := .inr (by simpa using ascii)
  have readable : sections quotedDiff.toList = .ok [quotedSection] := rfl
  have named : ∀ file ∈ [quotedSection],
      Path.IsName 'a' file.source ∧ Path.IsName 'b' file.target :=
    List.forall_mem_singleton.mpr
      ⟨.inr ⟨quotedPath, legible, rfl⟩, .inr ⟨quotedPath, legible, rfl⟩⟩
  have known : 'b' = 'a' ∨ 'b' = 'b' := .inr rfl
  obtain ⟨readBack, inDiffs⟩ := written_names_read known quotedPath
  obtain ⟨change, accepted, kept⟩ := inDiffs quotedDiff _ readable named
  exact ⟨legible, readBack.mpr legible, readable, named, rfl, change, accepted,
    kept quotedSection List.mem_cons_self rfl legible rfl⟩

/-- A name that needs quotes and has a character past number 255 is refused. With a character
    from 128 to 255 another path comes back. -/
theorem quoted_wide_lost :
    Path.written (Path.onOneSide 'b' "\"中.h".toList) = "\"b/\\\"中.h\"".toList ∧
    Path.read "\"b/\\\"中.h\"".toList = .error .wideCharacter ∧
    Path.written (Path.onOneSide 'b' "\"é.h".toList) = "\"b/\\\"é.h\"".toList ∧
    Path.read "\"b/\\\"é.h\"".toList = .ok "\"\ufffd.h".toList :=
  ⟨rfl, rfl, rfl, rfl⟩

end LintReview.Diff
