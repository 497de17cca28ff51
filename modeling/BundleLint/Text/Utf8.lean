import BundleLint.Text.Radix

/-!
# UTF-8

Strict decoding of UTF-8, one byte at a time. The decoder can stop between two pieces of a byte
sequence and go on later; a refusal names the bytes of the character that could not be finished.
-/

namespace BundleLint.Text.Utf8

/-- Why bytes are not the start of a character. -/
inductive Reason where
  /-- No character starts with this byte. -/
  | startByte
  /-- A character has begun, and the next byte does not continue it. -/
  | continuationByte
  /-- A character has begun, and the bytes end. -/
  | dataEnd
  deriving DecidableEq, Repr

/-- Wording of a reason. -/
def Reason.message : Reason → String
  | .startByte => "invalid start byte"
  | .continuationByte => "invalid continuation byte"
  | .dataEnd => "unexpected end of data"

/-- The first place where bytes are not UTF-8. -/
structure Malformed where
  /-- Number of bytes before the refused ones. -/
  start : Nat
  /-- The refused bytes, at least one. -/
  bytes : List UInt8
  /-- Why they are refused. -/
  reason : Reason
  deriving DecidableEq, Repr

/-- Wording of a refusal. -/
def Malformed.message (malformed : Malformed) : String :=
  let start := malformed.start
  let place :=
    match malformed.bytes with
    | [byte] => "byte 0x" ++ String.ofList (hex 2 byte.toNat) ++ " in position " ++ toString start
    | bytes => "bytes in position " ++ toString start ++ "-" ++ toString (start + bytes.length - 1)
  "'utf-8' codec can't decode " ++ place ++ ": " ++ malformed.reason.message

/-- A character of which some bytes are still to come. -/
structure Partway where
  /-- Number of bytes to come. -/
  missing : Nat
  /-- Least value that the next byte may have. -/
  least : Nat
  /-- Greatest value that the next byte may have. -/
  greatest : Nat
  /-- Bits collected so far. -/
  bits : Nat
  /-- Bytes collected so far, the last one first. -/
  reversed : List UInt8
  deriving DecidableEq, Repr

/-- What one more byte leads to. -/
inductive Progress where
  /-- A character is complete. -/
  | complete (c : Char)
  /-- A character has begun or goes on. -/
  | begun (partway : Partway)
  /-- The byte does not fit. -/
  | refused (reason : Reason)

/-- The first byte of a character. -/
def firstByte (byte : UInt8) : Progress :=
  let n := byte.toNat
  if n < 0x80 then .complete (Char.ofNat n)
  else if 0xC2 ≤ n && n ≤ 0xDF then .begun ⟨1, 0x80, 0xBF, n % 32, [byte]⟩
  else if 0xE0 ≤ n && n ≤ 0xEF then
    .begun ⟨2, if n == 0xE0 then 0xA0 else 0x80, if n == 0xED then 0x9F else 0xBF, n % 16, [byte]⟩
  else if 0xF0 ≤ n && n ≤ 0xF4 then
    .begun ⟨3, if n == 0xF0 then 0x90 else 0x80, if n == 0xF4 then 0x8F else 0xBF, n % 8, [byte]⟩
  else .refused .startByte

/-- A later byte of a character. -/
def nextByte (partway : Partway) (byte : UInt8) : Progress :=
  let n := byte.toNat
  if partway.least ≤ n && n ≤ partway.greatest then
    let bits := partway.bits * 64 + n % 64
    if partway.missing ≤ 1 then .complete (Char.ofNat bits)
    else .begun ⟨partway.missing - 1, 0x80, 0xBF, bits, byte :: partway.reversed⟩
  else .refused .continuationByte

/-- One byte after the bytes of an unfinished character, if there is one. -/
def step (partway : Option Partway) (byte : UInt8) : Progress :=
  match partway with
  | none => firstByte byte
  | some partway => nextByte partway byte

/-- Bytes of an unfinished character. -/
def heldBytes (partway : Option Partway) : List UInt8 :=
  match partway with
  | none => []
  | some partway => partway.reversed.reverse

/-- Decodes the bytes after the first `position` ones, appending to characters kept in reverse. -/
def decodeFrom (position : Nat) (partway : Option Partway) (reversed : List Char) :
    List UInt8 → List Char × Except Malformed (Option Partway)
  | [] => (reversed.reverse, .ok partway)
  | byte :: rest =>
    match step partway byte with
    | .complete c => decodeFrom (position + 1) none (c :: reversed) rest
    | .begun partway => decodeFrom (position + 1) (some partway) reversed rest
    | .refused reason =>
      let held := heldBytes partway
      (reversed.reverse,
        .error
          { start := position - held.length
            bytes := if held.isEmpty then [byte] else held
            reason })

/-- Refusal of an unfinished character at the end of the bytes. -/
def unfinished (size : Nat) (partway : Partway) : Malformed :=
  let held := partway.reversed.reverse
  { start := size - held.length, bytes := held, reason := .dataEnd }

/-- Decodes a whole byte sequence. -/
def decode (bytes : List UInt8) : Except Malformed (List Char) :=
  match decodeFrom 0 none [] bytes with
  | (_, .error malformed) => .error malformed
  | (_, .ok (some partway)) => .error (unfinished bytes.length partway)
  | (text, .ok none) => .ok text

end BundleLint.Text.Utf8
