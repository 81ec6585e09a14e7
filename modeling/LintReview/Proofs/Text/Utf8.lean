import LintReview.Text.Utf8

/-!
# Bytes below 128 and bytes above

A byte below 128 is a character by itself, wherever it stands. A byte from 128 on is one of the
bytes of a longer character, or it is invalid, and never the character of the same number. So
reading bytes gives the characters of the same numbers exactly if all bytes are below 128
(`decodeReplacing_eq_map_iff`).

The bytes that a text is written with are read as the text (`decodeReplacing_encode`): the lead
byte of a character tells how many bytes follow, and the range that it leaves to the second byte
is never missed by a character.
-/

namespace LintReview.Text

/-- The character that has the number of a byte. -/
def sameNumber (byte : UInt8) : Char := Char.ofNat byte.toNat

/-- The characters of the pieces of a text, invalid ones replaced. -/
def Piece.shown : Piece → Char
  | .character value => value
  | .invalid => '\ufffd'

theorem decodeReplacing_eq (bytes : List UInt8) :
    decodeReplacing bytes = (piecesAfter 0 bytes).map Piece.shown := by
  unfold decodeReplacing pieces
  refine List.map_congr_left fun piece _ => ?_
  cases piece <;> rfl

/-- A byte below 128 is a character by itself. -/
theorem decodeReplacing_cons {byte : UInt8} (rest : List UInt8) (low : byte.toNat < 128) :
    decodeReplacing (byte :: rest) = sameNumber byte :: decodeReplacing rest := by
  simp only [decodeReplacing_eq, piecesAfter, firstPiece, low, if_true, List.map_cons]
  rfl

/-- There are no more pieces than bytes that are not skipped. -/
theorem length_piecesAfter_le (skipped : Nat) (bytes : List UInt8) :
    (piecesAfter skipped bytes).length ≤ bytes.length - skipped := by
  induction bytes generalizing skipped with
  | nil => simp [piecesAfter]
  | cons byte rest inductionHypothesis =>
    cases skipped with
    | zero =>
      have later := inductionHypothesis (firstPiece byte rest).2
      simp only [piecesAfter, List.length_cons]
      omega
    | succ skipped =>
      have later := inductionHypothesis skipped
      simp only [piecesAfter, List.length_cons]
      omega

/-- A byte from 128 on that is a piece by itself is invalid. -/
theorem invalid_of_alone {byte : UInt8} {rest : List UInt8} (high : 128 ≤ byte.toNat)
    (alone : (firstPiece byte rest).2 = 0) : (firstPiece byte rest).1 = .invalid := by
  unfold firstPiece at alone ⊢
  rw [if_neg (by omega)] at alone ⊢
  split
  · next missing bits low top second others announced =>
    rw [announced] at alone
    split
    · next inside => simp [inside] at alone
    · rfl
  · rfl

/-- A last byte is a piece by itself. -/
theorem firstPiece_nil (byte : UInt8) : (firstPiece byte []).2 = 0 := by
  unfold firstPiece
  split
  · rfl
  · split
    · next second _ same => cases same
    · rfl

/-- The character of a byte's number has that number. -/
theorem toNat_sameNumber (byte : UInt8) : (sameNumber byte).toNat = byte.toNat := by
  have bound := byte.toNat_lt
  unfold sameNumber Char.ofNat
  rw [dif_pos (.inl (by omega))]
  rfl

/-- If all bytes stand for the characters of their numbers, they are below 128.

    There are then as many pieces as bytes, so each piece has taken one byte only; and of the
    bytes from 128 on none is a character by itself. -/
theorem low_of_decodeReplacing_eq {bytes : List UInt8}
    (same : decodeReplacing bytes = bytes.map sameNumber) : ∀ byte ∈ bytes, byte.toNat < 128 := by
  rw [decodeReplacing_eq] at same
  induction bytes with
  | nil => simp
  | cons byte rest inductionHypothesis =>
    rw [piecesAfter, List.map_cons, List.map_cons, List.cons.injEq] at same
    obtain ⟨first, later⟩ := same
    have alone : (firstPiece byte rest).2 = 0 := by
      cases rest with
      | nil => exact firstPiece_nil byte
      | cons second others =>
        have counted := congrArg List.length later
        have bound :=
          length_piecesAfter_le (firstPiece byte (second :: others)).2 (second :: others)
        simp only [List.length_map, List.length_cons] at counted bound
        omega
    rw [alone] at later
    refine List.forall_mem_cons.mpr ⟨?_, inductionHypothesis later⟩
    rcases Nat.lt_or_ge byte.toNat 128 with low | high
    · exact low
    · rw [invalid_of_alone high alone] at first
      have number : ('\ufffd').toNat = byte.toNat := by
        rw [← toNat_sameNumber, ← first]
        rfl
      have bound := byte.toNat_lt
      have replaced : ('\ufffd').toNat = 65533 := rfl
      omega

/-- Bytes give the characters of their numbers exactly if all of them are below 128. -/
theorem decodeReplacing_eq_map_iff {bytes : List UInt8} :
    decodeReplacing bytes = bytes.map sameNumber ↔ ∀ byte ∈ bytes, byte.toNat < 128 := by
  refine ⟨low_of_decodeReplacing_eq, fun low => ?_⟩
  induction bytes with
  | nil => rfl
  | cons byte rest inductionHypothesis =>
    obtain ⟨first, later⟩ := List.forall_mem_cons.mp low
    rw [decodeReplacing_cons rest first, inductionHypothesis later, List.map_cons]

/-- A character up to number 255 is that of the byte of its number. -/
theorem sameNumber_ofNat {character : Char} (narrow : character.toNat < 256) :
    sameNumber (UInt8.ofNat character.toNat) = character := by
  rw [sameNumber, UInt8.toNat_ofNat', Nat.mod_eq_of_lt narrow, Char.ofNat_toNat]

/-- The bytes that have the numbers of the characters of a text. -/
def numbersOf (text : List Char) : List UInt8 :=
  text.map fun character => UInt8.ofNat character.toNat

/-- A character in ASCII, taken for a byte, is read as itself. -/
theorem decodeReplacing_numbersOf_cons {character : Char} (rest : List Char)
    (ascii : character.toNat < 128) :
    decodeReplacing (numbersOf (character :: rest)) =
      character :: decodeReplacing (numbersOf rest) := by
  have number : (UInt8.ofNat character.toNat).toNat < 128 := by
    rw [UInt8.toNat_ofNat']
    omega
  rw [numbersOf, List.map_cons, decodeReplacing_cons _ number, sameNumber_ofNat (by omega)]
  rfl

/-- Characters up to number 255, taken for bytes, are read as themselves exactly if all of them
    are in ASCII. -/
theorem decodeReplacing_numbersOf_iff {text : List Char}
    (narrow : ∀ character ∈ text, character.toNat < 256) :
    decodeReplacing (numbersOf text) = text ↔ ∀ character ∈ text, character.toNat < 128 := by
  have back : (numbersOf text).map sameNumber = text := by
    rw [numbersOf, List.map_map]
    refine (List.map_congr_left fun character member => ?_).trans (List.map_id text)
    exact sameNumber_ofNat (narrow character member)
  have numbers (character : Char) (member : character ∈ text) :
      (UInt8.ofNat character.toNat).toNat = character.toNat := by
    rw [UInt8.toNat_ofNat']
    exact Nat.mod_eq_of_lt (narrow character member)
  have read : decodeReplacing (numbersOf text) = text ↔
      ∀ byte ∈ numbersOf text, byte.toNat < 128 := by
    rw [← decodeReplacing_eq_map_iff, back]
  rw [read, numbersOf, List.forall_mem_map]
  constructor
  · intro low character member
    exact numbers character member ▸ low character member
  · intro low character member
    exact (numbers character member).symm ▸ low character member

/-! ## Characters written as bytes -/

/-- The number of a byte that is made from a number below 256. -/
theorem toNat_byte {value : Nat} (small : value < 256) : (UInt8.ofNat value).toNat = value := by
  rw [UInt8.toNat_ofNat', Nat.mod_eq_of_lt small]

/-- The numbers of characters: below 55296, or from 57344 up to 1114111. -/
theorem scalar_bounds (character : Char) :
    character.toNat < 0xd800 ∨ 0xdfff < character.toNat ∧ character.toNat < 0x110000 :=
  character.valid

/-- A continuation byte gives six further bits. -/
theorem continuationBytes_cons (missing bits : Nat) {low : Nat} (small : low < 64)
    (rest : List UInt8) :
    continuationBytes (missing + 1) bits (UInt8.ofNat (0x80 + low) :: rest) =
      ((continuationBytes missing (bits * 64 + low) rest).1,
        (continuationBytes missing (bits * 64 + low) rest).2 + 1) := by
  have number : (UInt8.ofNat (0x80 + low)).toNat = 0x80 + low := toNat_byte (by omega)
  have continues : isContinuation (UInt8.ofNat (0x80 + low)) = true := by
    simp only [isContinuation, number, Bool.and_eq_true, decide_eq_true_eq]
    omega
  rw [continuationBytes, if_pos continues, number, Nat.add_sub_cancel_left]

/-- A lead byte and a second byte that fits begin a character; the remaining bytes go on with
    it. -/
theorem firstPiece_lead {lead : UInt8} {missing bits low high second : Nat}
    (leads : leadByte? lead = some (missing + 1, bits, low, high)) (long : 0x80 ≤ lead.toNat)
    (small : second < 64) (fits : low ≤ 0x80 + second ∧ 0x80 + second ≤ high)
    (rest : List UInt8) :
    firstPiece lead (UInt8.ofNat (0x80 + second) :: rest) =
      ((continuationBytes missing (bits * 64 + second) rest).1,
        (continuationBytes missing (bits * 64 + second) rest).2 + 1) := by
  have number : (UInt8.ofNat (0x80 + second)).toNat = 0x80 + second := toNat_byte (by omega)
  have inside : (low ≤ 0x80 + second && 0x80 + second ≤ high) = true := by
    simp only [Bool.and_eq_true, decide_eq_true_eq]
    exact fits
  have several : ¬ lead.toNat < 0x80 := Nat.not_lt_of_le long
  simp only [firstPiece, several, leads, number, inside, if_true, if_false,
    Nat.add_sub_cancel_left]

/-- The lead byte of a character of two bytes. -/
theorem leadByte?_two {code : Nat} (above : 0x80 ≤ code) (below : code < 0x800) :
    leadByte? (UInt8.ofNat (0xc0 + code / 64)) = some (1, code / 64, 0x80, 0xbf) := by
  have number : (UInt8.ofNat (0xc0 + code / 64)).toNat = 0xc0 + code / 64 := toNat_byte (by omega)
  have first : (0xc2 ≤ 0xc0 + code / 64 && 0xc0 + code / 64 ≤ 0xdf) = true := by
    simp only [Bool.and_eq_true, decide_eq_true_eq]
    omega
  simp only [leadByte?, number, first, if_true, Nat.add_sub_cancel_left]

/-- The lead byte of a character of three bytes. The range of the second byte leaves out what has
    a shorter form, and the numbers that no character has. -/
theorem leadByte?_three {code : Nat} (above : 0x800 ≤ code) (below : code < 0x10000)
    (scalar : code < 0xd800 ∨ 0xdfff < code) :
    ∃ low high, leadByte? (UInt8.ofNat (0xe0 + code / 4096)) = some (2, code / 4096, low, high) ∧
      low ≤ 0x80 + code / 64 % 64 ∧ 0x80 + code / 64 % 64 ≤ high := by
  have number : (UInt8.ofNat (0xe0 + code / 4096)).toNat = 0xe0 + code / 4096 :=
    toNat_byte (by omega)
  simp only [leadByte?, number, Bool.and_eq_true, decide_eq_true_eq, beq_iff_eq]
  rw [if_neg (by omega)]
  by_cases least : code / 4096 = 0
  · exact ⟨0xa0, 0xbf, by rw [if_pos (by omega), least], by omega, by omega⟩
  rw [if_neg (by omega)]
  by_cases last : code / 4096 = 13
  · exact ⟨0x80, 0x9f, by rw [if_pos (by omega), last], by omega, by omega⟩
  refine ⟨0x80, 0xbf, ?_, by omega, by omega⟩
  rw [if_neg (by omega), if_pos (by omega), Nat.add_sub_cancel_left]

/-- The lead byte of a character of four bytes. The range of the second byte leaves out what has
    a shorter form, and the numbers past the last character. -/
theorem leadByte?_four {code : Nat} (above : 0x10000 ≤ code) (below : code < 0x110000) :
    ∃ low high, leadByte? (UInt8.ofNat (0xf0 + code / 262144)) =
        some (3, code / 262144, low, high) ∧
      low ≤ 0x80 + code / 4096 % 64 ∧ 0x80 + code / 4096 % 64 ≤ high := by
  have number : (UInt8.ofNat (0xf0 + code / 262144)).toNat = 0xf0 + code / 262144 :=
    toNat_byte (by omega)
  simp only [leadByte?, number, Bool.and_eq_true, decide_eq_true_eq, beq_iff_eq]
  rw [if_neg (by omega), if_neg (by omega), if_neg (by omega), if_neg (by omega)]
  by_cases least : code / 262144 = 0
  · exact ⟨0x90, 0xbf, by rw [if_pos (by omega), least], by omega, by omega⟩
  rw [if_neg (by omega)]
  by_cases last : code / 262144 = 4
  · exact ⟨0x80, 0x8f, by rw [if_pos (by omega), last], by omega, by omega⟩
  refine ⟨0x80, 0xbf, ?_, by omega, by omega⟩
  rw [if_neg (by omega), if_pos (by omega), Nat.add_sub_cancel_left]

/-- The bytes of a character are read as the character, whatever stands behind them. -/
theorem firstPiece_encodeCharacter (character : Char) (rest : List UInt8) :
    ∃ lead others, encodeCharacter character = lead :: others ∧
      firstPiece lead (others ++ rest) = (.character character, others.length) := by
  have scalar := scalar_bounds character
  have same : Char.ofNat character.toNat = character := Char.ofNat_toNat character
  unfold encodeCharacter
  generalize character.toNat = code at scalar same
  dsimp only
  by_cases one : code < 0x80
  · have number : (UInt8.ofNat code).toNat = code := toNat_byte (by omega)
    refine ⟨UInt8.ofNat code, [], if_pos one, ?_⟩
    simp only [firstPiece, number, one, if_true, same, List.length_nil]
  by_cases two : code < 0x800
  · refine ⟨UInt8.ofNat (0xc0 + code / 64), _, by rw [if_neg one, if_pos two], ?_⟩
    have long : 0x80 ≤ (UInt8.ofNat (0xc0 + code / 64)).toNat := by
      rw [toNat_byte (by omega)]
      omega
    have value : code / 64 * 64 + code % 64 = code := by omega
    rw [List.singleton_append,
      firstPiece_lead (leadByte?_two (Nat.le_of_not_lt one) two) long (by omega) (by omega),
      continuationBytes, value, same]
    rfl
  by_cases three : code < 0x10000
  · refine ⟨UInt8.ofNat (0xe0 + code / 4096), _, by rw [if_neg one, if_neg two, if_pos three], ?_⟩
    have long : 0x80 ≤ (UInt8.ofNat (0xe0 + code / 4096)).toNat := by
      rw [toNat_byte (by omega)]
      omega
    have value : (code / 4096 * 64 + code / 64 % 64) * 64 + code % 64 = code := by omega
    obtain ⟨low, high, leads, fits⟩ := leadByte?_three (Nat.le_of_not_lt two) three (by omega)
    rw [List.cons_append, List.singleton_append, firstPiece_lead leads long (by omega) fits,
      continuationBytes_cons _ _ (show code % 64 < 64 by omega), continuationBytes, value, same]
    rfl
  · refine ⟨UInt8.ofNat (0xf0 + code / 262144), _,
      by rw [if_neg one, if_neg two, if_neg three], ?_⟩
    have long : 0x80 ≤ (UInt8.ofNat (0xf0 + code / 262144)).toNat := by
      rw [toNat_byte (by omega)]
      omega
    have value : ((code / 262144 * 64 + code / 4096 % 64) * 64 + code / 64 % 64) * 64 +
        code % 64 = code := by omega
    obtain ⟨low, high, leads, fits⟩ := leadByte?_four (Nat.le_of_not_lt three) (by omega)
    rw [List.cons_append, List.cons_append, List.singleton_append,
      firstPiece_lead leads long (by omega) fits,
      continuationBytes_cons _ _ (show code / 64 % 64 < 64 by omega),
      continuationBytes_cons _ _ (show code % 64 < 64 by omega), continuationBytes, value, same]
    rfl

/-- Bytes that belong to the piece before are passed over. -/
theorem piecesAfter_append (skipped rest : List UInt8) :
    piecesAfter skipped.length (skipped ++ rest) = piecesAfter 0 rest := by
  induction skipped with
  | nil => rfl
  | cons byte others inductionHypothesis =>
    rw [List.cons_append, List.length_cons, piecesAfter, inductionHypothesis]

/-- The bytes of a character in front of others are read as the character. -/
theorem decodeReplacing_encodeCharacter (character : Char) (rest : List UInt8) :
    decodeReplacing (encodeCharacter character ++ rest) = character :: decodeReplacing rest := by
  obtain ⟨lead, others, bytes, read⟩ := firstPiece_encodeCharacter character rest
  rw [bytes, decodeReplacing_eq, decodeReplacing_eq, List.cons_append, piecesAfter, read,
    List.map_cons, piecesAfter_append]
  rfl

/-- The bytes of a text are read as the text. -/
theorem decodeReplacing_encode (text : List Char) : decodeReplacing (encode text) = text := by
  induction text with
  | nil => rfl
  | cons character rest inductionHypothesis =>
    unfold encode at inductionHypothesis ⊢
    rw [List.flatMap_cons, decodeReplacing_encodeCharacter, inductionHypothesis]

end LintReview.Text
