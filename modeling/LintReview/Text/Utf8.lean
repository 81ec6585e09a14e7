/-!
# UTF-8

Bytes are read as maximal sequences that a character could begin with. A sequence that
no character has is replaced by one replacement character, and reading goes on with the
first byte that does not fit; so every byte is read, and a valid text is read as itself.
-/

namespace LintReview.Text

/-- The bytes of a character. -/
def encodeCharacter (character : Char) : List UInt8 :=
  let code := character.toNat
  let byte (value : Nat) : UInt8 := UInt8.ofNat value
  if code < 0x80 then [byte code]
  else if code < 0x800 then [byte (0xc0 + code / 64), byte (0x80 + code % 64)]
  else if code < 0x10000 then
    [byte (0xe0 + code / 4096), byte (0x80 + code / 64 % 64), byte (0x80 + code % 64)]
  else
    [byte (0xf0 + code / 262144), byte (0x80 + code / 4096 % 64), byte (0x80 + code / 64 % 64),
      byte (0x80 + code % 64)]

/-- The bytes of a text. -/
def encode (text : List Char) : List UInt8 :=
  text.flatMap encodeCharacter

/-- What the next bytes are: a character, or the start of one that goes wrong. -/
inductive Piece where
  | character (value : Char)
  | invalid
  deriving Repr, DecidableEq

/-- A byte that continues a character. -/
def isContinuation (byte : UInt8) : Bool :=
  0x80 ≤ byte.toNat && byte.toNat ≤ 0xbf

/-- How a character begins: how many bytes follow the first, the bits that the first
    contributes, and the range of the second byte. The ranges exclude overlong forms,
    surrogates and code points past the last. -/
def leadByte? (byte : UInt8) : Option (Nat × Nat × Nat × Nat) :=
  let value := byte.toNat
  if 0xc2 ≤ value && value ≤ 0xdf then some (1, value - 0xc0, 0x80, 0xbf)
  else if value == 0xe0 then some (2, 0, 0xa0, 0xbf)
  else if value == 0xed then some (2, 13, 0x80, 0x9f)
  else if 0xe1 ≤ value && value ≤ 0xef then some (2, value - 0xe0, 0x80, 0xbf)
  else if value == 0xf0 then some (3, 0, 0x90, 0xbf)
  else if value == 0xf4 then some (3, 4, 0x80, 0x8f)
  else if 0xf1 ≤ value && value ≤ 0xf3 then some (3, value - 0xf0, 0x80, 0xbf)
  else none

/-- Reads the continuation bytes of a character whose bits so far are `bits`. The second
    component counts the bytes that were read. -/
def continuationBytes : Nat → Nat → List UInt8 → Piece × Nat
  | 0, bits, _ => (.character (Char.ofNat bits), 0)
  | _ + 1, _, [] => (.invalid, 0)
  | missing + 1, bits, byte :: rest =>
    if isContinuation byte then
      let (piece, count) := continuationBytes missing (bits * 64 + (byte.toNat - 0x80)) rest
      (piece, count + 1)
    else (.invalid, 0)

/-- The first piece of a sequence with the given first byte, and how many of the bytes
    after it belong to the piece. -/
def firstPiece (byte : UInt8) (rest : List UInt8) : Piece × Nat :=
  if byte.toNat < 0x80 then (.character (Char.ofNat byte.toNat), 0)
  else
    match leadByte? byte, rest with
    | some (missing + 1, bits, low, high), second :: others =>
      if low ≤ second.toNat && second.toNat ≤ high then
        let (piece, count) := continuationBytes missing (bits * 64 + (second.toNat - 0x80)) others
        (piece, count + 1)
      else (.invalid, 0)
    | _, _ => (.invalid, 0)

/-- The pieces of a byte sequence, where the first `skipped` bytes belong to the piece
    before. -/
def piecesAfter : Nat → List UInt8 → List Piece
  | _, [] => []
  | skipped + 1, _ :: rest => piecesAfter skipped rest
  | 0, byte :: rest =>
    let (piece, count) := firstPiece byte rest
    piece :: piecesAfter count rest

/-- The pieces of a byte sequence. -/
def pieces (bytes : List UInt8) : List Piece :=
  piecesAfter 0 bytes

/-- The text of a byte sequence, with a replacement character for each invalid piece. -/
def decodeReplacing (bytes : List UInt8) : List Char :=
  (pieces bytes).map fun
    | .character value => value
    | .invalid => '\ufffd'

/-- The text of a byte sequence, if every piece is a character. -/
def decode? (bytes : List UInt8) : Option (List Char) :=
  (pieces bytes).mapM fun
    | .character value => some value
    | .invalid => none

end LintReview.Text
