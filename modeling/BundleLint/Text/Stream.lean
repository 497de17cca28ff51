import BundleLint.Text.Line
import BundleLint.Text.Utf8

/-!
# Text read in pieces

A byte sequence decoded as a reader does that asks for text in pieces: characters are handed out
a fixed number at a time, and bytes are decoded only when the characters at hand do not suffice.
Line feeds are unified on the way. A decoding failure so belongs to the piece that needed it, and
its position counts from the start of the bytes decoded last.
-/

namespace BundleLint.Text

/-- Number of characters in one piece. -/
def pieceSize : Nat := 4096

/-- Least number of bytes decoded at once. -/
def byteChunkSize : Nat := 8192

/-- A text with the failure, if any, that ends it. -/
structure Stream where
  /-- Characters decoded before the failure. -/
  text : List Char
  /-- Number of the piece, from zero, that cannot be had, and why. -/
  failure : Option (Nat × Utf8.Malformed)

/-- How far the decoding of a byte sequence has come. -/
structure Decoding where
  /-- Bytes not yet decoded. -/
  bytes : List UInt8
  /-- Character begun and not finished. -/
  partway : Option Utf8.Partway
  /-- Whether a carriage return ended the last chunk. -/
  heldReturn : Bool
  /-- Size of the last chunk in bytes. -/
  chunkBytes : Nat
  /-- Characters that the last chunk gave. -/
  chunkChars : Nat
  /-- Characters decoded so far, in chunks, the last one first. -/
  chunks : List (List Char)
  /-- Number of characters decoded so far. -/
  available : Nat

namespace Decoding

/-- The characters decoded so far. -/
def text (decoding : Decoding) : List Char :=
  decoding.chunks.reverse.flatten

/-- Number of bytes decoded at once when this many characters are wanted, by the bytes that a
character took in the last chunk. -/
def nextChunkSize (decoding : Decoding) (wanted : Nat) : Nat :=
  if decoding.chunkChars == 0 then byteChunkSize
  else
    let bytesPerChar := decoding.chunkBytes.toFloat / decoding.chunkChars.toFloat
    max byteChunkSize (max wanted (bytesPerChar * wanted.toFloat).toUInt64.toNat)

/-- Decodes one more chunk, on the way to this many further characters. -/
def advance (decoding : Decoding) (wanted : Nat) : Except Utf8.Malformed Decoding :=
  let chunk := decoding.bytes.take (decoding.nextChunkSize wanted)
  let held := Utf8.heldBytes decoding.partway
  match Utf8.decodeFrom held.length decoding.partway [] chunk with
  | (_, .error malformed) => .error malformed
  | (decoded, .ok partway) =>
    let raw := if decoding.heldReturn then '\r' :: decoded else decoded
    let heldReturn := raw.getLast? == some '\r'
    let shown := unifyLineFeeds (if heldReturn then raw.dropLast else raw)
    .ok
      { bytes := decoding.bytes.drop chunk.length
        partway
        heldReturn
        chunkBytes := chunk.length
        chunkChars := shown.length
        chunks := shown :: decoding.chunks
        available := decoding.available + shown.length }

/-- Hands out pieces from a number on, within a bound on the number of steps. -/
def pieces : (steps : Nat) → (piece : Nat) → Decoding → Stream
  | 0, _, decoding => ⟨decoding.text, none⟩
  | steps + 1, piece, decoding =>
    let requested := pieceSize * (piece + 1)
    if requested ≤ decoding.available then pieces steps (piece + 1) decoding
    else if decoding.bytes.isEmpty then
      match decoding.partway with
      | some partway =>
        ⟨decoding.text, some (piece, Utf8.unfinished partway.reversed.length partway)⟩
      | none => ⟨decoding.text ++ (if decoding.heldReturn then ['\n'] else []), none⟩
    else
      match decoding.advance (requested - decoding.available) with
      | .error malformed => ⟨decoding.text, some (piece, malformed)⟩
      | .ok decoding => pieces steps piece decoding

end Decoding

/-- The text of a byte sequence read in pieces. -/
def stream (bytes : List UInt8) : Stream :=
  Decoding.pieces (bytes.length + bytes.length / pieceSize + 2) 0
    { bytes, partway := none, heldReturn := false, chunkBytes := 0, chunkChars := 0
      chunks := [], available := 0 }

end BundleLint.Text
