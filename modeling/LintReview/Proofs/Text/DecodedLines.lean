import LintReview.Proofs.Text.Parts
import LintReview.Proofs.Text.Utf8
import Mathlib.Algebra.Group.Nat.Defs

/-!
# Decoding and cutting

A byte below 128 ends whatever sequence was begun in front of it, valid or not, and begins anew
(`decodeReplacing_append_low`). The other way round, a character below 128 in the decoded text
stands for such a byte: no longer sequence is read as one, because overlong forms and the numbers
of no character are left out (`exists_byte_of_mem`). So it is the same to decode bytes and
cut the text at a character below 128, or to cut the bytes and decode the parts
(`split_decodeReplacing`).
-/

namespace LintReview.Text

/-! ## A byte that ends a sequence -/

/-- A byte below 128 continues nothing. -/
theorem isContinuation_low {byte : UInt8} (low : byte.toNat < 128) :
    isContinuation byte = false := by
  simp only [isContinuation, Bool.and_eq_false_iff, decide_eq_false_iff_not]
  omega

/-- Reading continuation bytes stops in front of a byte below 128, as it does at the end. -/
theorem continuationBytes_append_low {byte : UInt8} (low : byte.toNat < 128) (missing bits : Nat)
    (front rest : List UInt8) :
    continuationBytes missing bits (front ++ byte :: rest) =
      continuationBytes missing bits front := by
  induction front generalizing missing bits with
  | nil =>
    cases missing with
    | zero => rfl
    | succ missing =>
      rw [List.nil_append, continuationBytes, continuationBytes, isContinuation_low low,
        if_neg Bool.false_ne_true]
  | cons first others inductionHypothesis =>
    cases missing with
    | zero => rfl
    | succ missing =>
      rw [List.cons_append, continuationBytes, continuationBytes, inductionHypothesis]

/-- The second byte of a longer character is from 128 on. -/
theorem range_of_leadByte? {lead : UInt8} {missing bits low high : Nat}
    (leads : leadByte? lead = some (missing, bits, low, high)) : 128 ≤ low := by
  unfold leadByte? at leads
  dsimp only at leads
  repeat' split at leads
  all_goals simp only [Option.some.injEq, Prod.mk.injEq, reduceCtorEq] at leads
  all_goals omega

/-- So does reading a piece. -/
theorem firstPiece_append_low {byte : UInt8} (low : byte.toNat < 128) (first : UInt8)
    (front rest : List UInt8) :
    firstPiece first (front ++ byte :: rest) = firstPiece first front := by
  unfold firstPiece
  by_cases single : first.toNat < 0x80
  · rw [if_pos single, if_pos single]
  rw [if_neg single, if_neg single]
  cases leads : leadByte? first with
  | none => rfl
  | some announced =>
    obtain ⟨missing, bits, least, most⟩ := announced
    cases missing with
    | zero => rfl
    | succ missing =>
      cases front with
      | cons second others => simp only [List.cons_append, continuationBytes_append_low low]
      | nil =>
        have range := range_of_leadByte? leads
        have outside : (least ≤ byte.toNat && byte.toNat ≤ most) = false := by
          simp only [Bool.and_eq_false_iff, decide_eq_false_iff_not]
          omega
        simp only [List.nil_append, outside, Bool.false_eq_true, if_false]

/-- No more continuation bytes are read than there are. -/
theorem continuationBytes_le_length (missing bits : Nat) (bytes : List UInt8) :
    (continuationBytes missing bits bytes).2 ≤ bytes.length := by
  induction bytes generalizing missing bits with
  | nil => cases missing <;> exact Nat.le_refl 0
  | cons byte rest inductionHypothesis =>
    cases missing with
    | zero => exact Nat.zero_le _
    | succ missing =>
      rw [continuationBytes]
      split
      · exact Nat.succ_le_succ (inductionHypothesis missing _)
      · exact Nat.zero_le _

/-- No more bytes belong to the first piece than there are. -/
theorem firstPiece_le_length (byte : UInt8) (rest : List UInt8) :
    (firstPiece byte rest).2 ≤ rest.length := by
  unfold firstPiece
  split
  · exact Nat.zero_le _
  · split
    · split
      · exact Nat.succ_le_succ (continuationBytes_le_length ..)
      · exact Nat.zero_le _
    · exact Nat.zero_le _

/-- The pieces in front of a byte below 128 are those of the bytes in front of it. -/
theorem piecesAfter_append_low {byte : UInt8} (low : byte.toNat < 128) {skipped : Nat}
    {front : List UInt8} (inside : skipped ≤ front.length) (rest : List UInt8) :
    piecesAfter skipped (front ++ byte :: rest) =
      piecesAfter skipped front ++ piecesAfter 0 (byte :: rest) := by
  induction front generalizing skipped with
  | nil =>
    obtain rfl : skipped = 0 := Nat.le_zero.mp inside
    rfl
  | cons first others inductionHypothesis =>
    cases skipped with
    | zero =>
      simp only [List.cons_append, piecesAfter, firstPiece_append_low low,
        inductionHypothesis (firstPiece_le_length first others)]
    | succ skipped =>
      rw [List.cons_append, piecesAfter, piecesAfter,
        inductionHypothesis (Nat.le_of_succ_le_succ inside)]

/-- A byte below 128 is the character of its number, whatever stands in front of it. -/
theorem decodeReplacing_append_low {byte : UInt8} (low : byte.toNat < 128)
    (front rest : List UInt8) :
    decodeReplacing (front ++ byte :: rest) =
      decodeReplacing front ++ sameNumber byte :: decodeReplacing rest := by
  rw [← decodeReplacing_cons rest low, decodeReplacing_eq, decodeReplacing_eq, decodeReplacing_eq,
    piecesAfter_append_low low (Nat.zero_le _), List.map_append]

/-! ## Characters of several bytes -/

/-- A character that continuation bytes make up has the bits in front, and six more for each byte
    that was missing. -/
theorem number_of_continuationBytes {missing bits : Nat} {bytes : List UInt8} {character : Char}
    (read : (continuationBytes missing bits bytes).1 = .character character) :
    ∃ number, character = Char.ofNat number ∧ bits * 64 ^ missing ≤ number ∧
      number < (bits + 1) * 64 ^ missing := by
  induction bytes generalizing missing bits with
  | nil =>
    cases missing with
    | zero =>
      obtain rfl := Piece.character.inj read
      exact ⟨bits, rfl, by omega, by omega⟩
    | succ missing => cases read
  | cons byte rest inductionHypothesis =>
    cases missing with
    | zero =>
      obtain rfl := Piece.character.inj read
      exact ⟨bits, rfl, by omega, by omega⟩
    | succ missing =>
      rw [continuationBytes] at read
      split at read
      · next continues =>
        obtain ⟨number, same, least, most⟩ := inductionHypothesis read
        simp only [isContinuation, Bool.and_eq_true, decide_eq_true_eq] at continues
        refine ⟨number, same, ?_, ?_⟩
        · refine Nat.le_trans ?_ least
          rw [Nat.pow_succ', ← Nat.mul_assoc]
          exact Nat.mul_le_mul_right _ (Nat.le_add_right _ _)
        · refine Nat.lt_of_lt_of_le most ?_
          rw [Nat.pow_succ', ← Nat.mul_assoc]
          exact Nat.mul_le_mul_right _ (by omega)
      · cases read

/-- The bits that a lead byte and a second byte in its range begin with are those of characters
    from 128 on: the ranges leave out what has a shorter form and what is no character. -/
theorem scalar_of_leadByte? {lead : UInt8} {missing bits low high second number : Nat}
    (leads : leadByte? lead = some (missing + 1, bits, low, high))
    (fits : low ≤ second ∧ second ≤ high)
    (least : (bits * 64 + (second - 0x80)) * 64 ^ missing ≤ number)
    (most : number < (bits * 64 + (second - 0x80) + 1) * 64 ^ missing) :
    128 ≤ number ∧ number.isValidChar := by
  unfold leadByte? at leads
  simp only [Bool.and_eq_true, decide_eq_true_eq, beq_iff_eq] at leads
  repeat' split at leads
  all_goals simp only [Option.some.injEq, Prod.mk.injEq, reduceCtorEq] at leads
  all_goals
    obtain ⟨count, rfl, rfl, rfl⟩ := leads
    obtain rfl := Nat.succ.inj count
    simp only [Nat.reducePow] at least most
    unfold Nat.isValidChar
    omega

/-- A character that begins with a byte from 128 on has a number from 128 on. -/
theorem high_of_firstPiece {byte : UInt8} {rest : List UInt8} {character : Char}
    (high : 128 ≤ byte.toNat) (read : (firstPiece byte rest).1 = .character character) :
    128 ≤ character.toNat := by
  unfold firstPiece at read
  rw [if_neg (Nat.not_lt.mpr high)] at read
  split at read
  · next missing bits least most second others leads =>
    split at read
    · next inside =>
      rw [Bool.and_eq_true, decide_eq_true_eq, decide_eq_true_eq] at inside
      obtain ⟨number, rfl, above, below⟩ := number_of_continuationBytes read
      obtain ⟨wide, valid⟩ := scalar_of_leadByte? leads inside above below
      rw [Char.ofNat, dif_pos valid]
      exact wide
    · cases read
  · cases read

/-- A piece that is shown as a character below 128 is the byte of its number. -/
theorem shown_firstPiece_low {byte : UInt8} {rest : List UInt8}
    (low : (firstPiece byte rest).1.shown.toNat < 128) :
    (firstPiece byte rest).1.shown = sameNumber byte := by
  rcases Nat.lt_or_ge byte.toNat 128 with narrow | wide
  · unfold firstPiece
    rw [if_pos narrow]
    rfl
  · cases piece : (firstPiece byte rest).1 with
    | character value =>
      rw [piece] at low
      exact absurd low (Nat.not_lt.mpr (high_of_firstPiece wide piece))
    | invalid =>
      rw [piece] at low
      exact absurd low (by decide)

/-- A character below 128 in a decoded text stands for the byte of its number. -/
theorem exists_byte_of_mem {skipped : Nat} {bytes : List UInt8} {character : Char}
    (member : character ∈ (piecesAfter skipped bytes).map Piece.shown)
    (low : character.toNat < 128) : ∃ byte ∈ bytes, character = sameNumber byte := by
  induction bytes generalizing skipped with
  | nil => cases member
  | cons byte rest inductionHypothesis =>
    cases skipped with
    | succ skipped =>
      obtain ⟨other, inside, same⟩ := inductionHypothesis member
      exact ⟨other, List.mem_cons_of_mem byte inside, same⟩
    | zero =>
      rw [piecesAfter, List.map_cons, List.mem_cons] at member
      rcases member with rfl | behind
      · exact ⟨byte, List.mem_cons_self, shown_firstPiece_low low⟩
      · obtain ⟨other, inside, same⟩ := inductionHypothesis behind
        exact ⟨other, List.mem_cons_of_mem byte inside, same⟩

/-! ## Lines -/

/-- Bytes have numbers of their own. -/
theorem sameNumber_injective : Function.Injective sameNumber := by
  intro first second same
  rw [← UInt8.toNat_inj, ← toNat_sameNumber, ← toNat_sameNumber, same]

/-- Without a byte below 128 there is no character of its number. -/
theorem sameNumber_not_mem {byte : UInt8} {bytes : List UInt8} (low : byte.toNat < 128)
    (absent : byte ∉ bytes) : sameNumber byte ∉ decodeReplacing bytes := by
  intro member
  rw [decodeReplacing_eq] at member
  have narrow : (sameNumber byte).toNat < 128 := toNat_sameNumber byte ▸ low
  obtain ⟨other, inside, same⟩ := exists_byte_of_mem member narrow
  exact absent (sameNumber_injective same ▸ inside)

/-- Parts between bytes below 128 are decoded one by one. -/
theorem split_decodeReplacing_join {byte : UInt8} (low : byte.toNat < 128)
    {parts : List (List UInt8)} (some : parts ≠ []) (plain : ∀ part ∈ parts, byte ∉ part) :
    split (sameNumber byte) (decodeReplacing (join [byte] parts)) = parts.map decodeReplacing := by
  induction parts with
  | nil => exact absurd rfl some
  | cons part rest inductionHypothesis =>
    obtain ⟨here, later⟩ := List.forall_mem_cons.mp plain
    have single := split_of_not_mem (sameNumber_not_mem low here)
    cases rest with
    | nil => exact single
    | cons second others =>
      rw [join_cons_cons, List.append_assoc, List.singleton_append, decodeReplacing_append_low low,
        split_append, single, inductionHypothesis (List.cons_ne_nil second others) later,
        List.singleton_append]
      rfl

/-- To cut a decoded text at a character below 128 is to cut the bytes and to decode the parts. -/
theorem split_decodeReplacing {byte : UInt8} (low : byte.toNat < 128) (bytes : List UInt8) :
    split (sameNumber byte) (decodeReplacing bytes) = (split byte bytes).map decodeReplacing := by
  have parts := split_decodeReplacing_join low (split_ne_nil byte bytes)
    fun _ => not_mem_of_mem_split
  rwa [join_split] at parts

end LintReview.Text
