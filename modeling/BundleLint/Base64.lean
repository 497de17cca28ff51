/-!
# Lenient base64

Decoding of base64 that skips every character outside the alphabet. A pad completes a group of
four only after two characters of it; a completed group ends the reading.
-/

namespace BundleLint.Base64

/-- Why the characters do not decode. -/
inductive Fault where
  /-- The last group lacks its padding. -/
  | padding
  /-- The last group holds one character only. -/
  | length (characters : Nat)
  deriving DecidableEq, Repr

/-- Wording of a fault. -/
def Fault.message : Fault → String
  | .padding => "Incorrect padding"
  | .length characters =>
    "Invalid base64-encoded string: number of data characters (" ++ toString characters ++
      ") cannot be 1 more than a multiple of 4"

/-- Six bits of a character of the alphabet. -/
def sextet? (c : Char) : Option Nat :=
  if 'A' ≤ c && c ≤ 'Z' then some (c.toNat - 'A'.toNat)
  else if 'a' ≤ c && c ≤ 'z' then some (c.toNat - 'a'.toNat + 26)
  else if '0' ≤ c && c ≤ '9' then some (c.toNat - '0'.toNat + 52)
  else if c == '+' then some 62
  else if c == '/' then some 63
  else none

/-- How far a group has come. -/
structure Group where
  /-- Characters of the group so far, below four. -/
  size : Nat
  /-- Bits that are not yet part of a byte. -/
  bits : Nat
  /-- Pads seen since the last character. -/
  pads : Nat

/-- Decodes characters, with the bytes so far in reverse. -/
def decodeFrom (group : Group) (reversed : List UInt8) : List Char → Except Fault (List UInt8)
  | [] =>
    if group.size == 0 then .ok reversed.reverse
    else if group.size == 1 then .error (.length (reversed.length / 3 * 4 + 1))
    else .error .padding
  | c :: rest =>
    if c == '=' then
      if group.size < 2 then decodeFrom group reversed rest
      else if 4 ≤ group.size + (group.pads + 1) then .ok reversed.reverse
      else decodeFrom { group with pads := group.pads + 1 } reversed rest
    else
      match sextet? c with
      | none => decodeFrom group reversed rest
      | some sextet =>
        let bits := group.bits * 64 + sextet
        match group.size with
        | 0 => decodeFrom ⟨1, bits, 0⟩ reversed rest
        | 1 => decodeFrom ⟨2, bits % 16, 0⟩ (UInt8.ofNat (bits / 16) :: reversed) rest
        | 2 => decodeFrom ⟨3, bits % 4, 0⟩ (UInt8.ofNat (bits / 4) :: reversed) rest
        | _ => decodeFrom ⟨0, 0, 0⟩ (UInt8.ofNat bits :: reversed) rest

/-- Decodes a text. -/
def decode (text : List Char) : Except Fault (List UInt8) :=
  decodeFrom ⟨0, 0, 0⟩ [] text

end BundleLint.Base64
