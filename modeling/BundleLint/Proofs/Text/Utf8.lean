import BundleLint.Text.Utf8
import Mathlib.Data.List.Basic

/-!
# Decoding what was encoded

The decoder takes the bytes of a text back to the text. A character has one to four bytes; the first
one brings its highest bits and says what the second one may be, and each later byte brings six
bits.
-/

namespace BundleLint.Text.Utf8

/-- The bytes of a text. -/
def encode (text : List Char) : List UInt8 :=
  text.flatMap String.utf8EncodeChar

section Bytes

variable {byte : UInt8} {bits : Nat}

theorem step_one (byte_lt : byte.toNat < 0x80) :
    step none byte = .complete (Char.ofNat byte.toNat) := by
  simp only [step, firstByte, byte_lt, if_true]

theorem step_two (number : byte.toNat = 0xC0 + bits) (le_bits : 2 ≤ bits) (bits_lt : bits < 32) :
    step none byte = .begun ⟨1, 0x80, 0xBF, bits, [byte]⟩ := by
  have own_bits : (0xC0 + bits) % 32 = bits := by omega
  grind [step, firstByte]

theorem step_three (number : byte.toNat = 0xE0 + bits) (bits_lt : bits < 16) :
    step none byte =
      .begun
        ⟨2, if bits = 0 then 0xA0 else 0x80, if bits = 13 then 0x9F else 0xBF, bits, [byte]⟩ := by
  have own_bits : (0xE0 + bits) % 16 = bits := by omega
  grind [step, firstByte]

theorem step_four (number : byte.toNat = 0xF0 + bits) (bits_lt : bits < 5) :
    step none byte =
      .begun
        ⟨3, if bits = 0 then 0x90 else 0x80, if bits = 4 then 0x8F else 0xBF, bits, [byte]⟩ := by
  have own_bits : (0xF0 + bits) % 8 = bits := by omega
  grind [step, firstByte]

variable {missing least greatest carried : Nat} {held : List UInt8}

/-- The last byte of a character brings six bits and ends it. -/
theorem step_last (number : byte.toNat = 0x80 + bits) (bits_lt : bits < 64)
    (least_le : least ≤ 0x80 + bits) (le_greatest : 0x80 + bits ≤ greatest) :
    step (some ⟨1, least, greatest, carried, held⟩) byte =
      .complete (Char.ofNat (carried * 64 + bits)) := by
  have own_bits : (0x80 + bits) % 64 = bits := by omega
  simp [step, nextByte, number, own_bits, least_le, le_greatest]

/-- An inner byte of a character brings six bits, and the next byte may be any such byte. -/
theorem step_inner (number : byte.toNat = 0x80 + bits) (bits_lt : bits < 64)
    (least_le : least ≤ 0x80 + bits) (le_greatest : 0x80 + bits ≤ greatest) :
    step (some ⟨missing + 2, least, greatest, carried, held⟩) byte =
      .begun ⟨missing + 1, 0x80, 0xBF, carried * 64 + bits, byte :: held⟩ := by
  have own_bits : (0x80 + bits) % 64 = bits := by omega
  simp [step, nextByte, number, own_bits, least_le, le_greatest]

end Bytes

section Characters

variable {position : Nat} {reversed : List Char} {first second third fourth : UInt8}
  {high middle low lowest : Nat} (rest : List UInt8)

theorem decodeFrom_of_complete {partway : Option Partway} {c : Char}
    (completes : step partway first = .complete c) :
    decodeFrom position partway reversed (first :: rest) =
      decodeFrom (position + 1) none (c :: reversed) rest := by
  rw [decodeFrom, completes]

theorem decodeFrom_of_begun {partway : Option Partway} {next : Partway}
    (begins : step partway first = .begun next) :
    decodeFrom position partway reversed (first :: rest) =
      decodeFrom (position + 1) (some next) reversed rest := by
  rw [decodeFrom, begins]

/-- A character of two bytes. -/
theorem decodeFrom_two (first_eq : first.toNat = 0xC0 + high)
    (second_eq : second.toNat = 0x80 + low) (le_high : 2 ≤ high) (high_lt : high < 32)
    (low_lt : low < 64) :
    decodeFrom position none reversed (first :: second :: rest) =
      decodeFrom (position + 2) none (Char.ofNat (high * 64 + low) :: reversed) rest := by
  rw [decodeFrom_of_begun _ (step_two first_eq le_high high_lt),
    decodeFrom_of_complete _ (step_last second_eq low_lt (by omega) (by omega))]

/-- A character of three bytes. -/
theorem decodeFrom_three (first_eq : first.toNat = 0xE0 + high)
    (second_eq : second.toNat = 0x80 + middle) (third_eq : third.toNat = 0x80 + low)
    (high_lt : high < 16) (middle_lt : middle < 64) (low_lt : low < 64)
    (least : high = 0 → 32 ≤ middle) (greatest : high = 13 → middle < 32) :
    decodeFrom position none reversed (first :: second :: third :: rest) =
      decodeFrom (position + 3) none (Char.ofNat ((high * 64 + middle) * 64 + low) :: reversed)
        rest := by
  rw [decodeFrom_of_begun _ (step_three first_eq high_lt),
    decodeFrom_of_begun _ (step_inner second_eq middle_lt (by split <;> omega)
      (by split <;> omega)),
    decodeFrom_of_complete _ (step_last third_eq low_lt (by omega) (by omega))]

/-- A character of four bytes. -/
theorem decodeFrom_four (first_eq : first.toNat = 0xF0 + high)
    (second_eq : second.toNat = 0x80 + middle) (third_eq : third.toNat = 0x80 + low)
    (fourth_eq : fourth.toNat = 0x80 + lowest)
    (high_lt : high < 5) (middle_lt : middle < 64) (low_lt : low < 64) (lowest_lt : lowest < 64)
    (least : high = 0 → 16 ≤ middle) (greatest : high = 4 → middle < 16) :
    decodeFrom position none reversed (first :: second :: third :: fourth :: rest) =
      decodeFrom (position + 4) none
        (Char.ofNat (((high * 64 + middle) * 64 + low) * 64 + lowest) :: reversed) rest := by
  rw [decodeFrom_of_begun _ (step_four first_eq high_lt),
    decodeFrom_of_begun _ (step_inner second_eq middle_lt (by split <;> omega)
      (by split <;> omega)),
    decodeFrom_of_begun _ (step_inner third_eq low_lt (by omega) (by omega)),
    decodeFrom_of_complete _ (step_last fourth_eq lowest_lt (by omega) (by omega))]

end Characters

theorem toNat_ofNat_add {bits base : Nat} (small : bits + base < 256) :
    (UInt8.ofNat (bits + base)).toNat = base + bits := by
  rw [UInt8.toNat_ofNat_of_lt' small, Nat.add_comm]

/-- The bytes of a character are decoded to it. -/
theorem decodeFrom_utf8EncodeChar (c : Char) (position : Nat) (reversed : List Char)
    (rest : List UInt8) :
    ∃ later, decodeFrom position none reversed (String.utf8EncodeChar c ++ rest) =
      decodeFrom later none (c :: reversed) rest := by
  have valid : c.val.toNat < 0xD800 ∨ 0xDFFF < c.val.toNat ∧ c.val.toNat < 0x110000 := c.valid
  have whole : Char.ofNat c.val.toNat = c := c.ofNat_toNat
  unfold String.utf8EncodeChar
  generalize c.val.toNat = n at valid whole
  subst whole
  dsimp only
  split
  · rename_i upper
    have number : (UInt8.ofNat n).toNat = n := by
      rw [UInt8.toNat_ofNat']
      omega
    have ends : step none (UInt8.ofNat n) = .complete (Char.ofNat (UInt8.ofNat n).toNat) :=
      step_one (by omega)
    rw [number] at ends
    exact ⟨_, decodeFrom_of_complete rest ends⟩
  split
  · rename_i lower upper
    have parts : n = n / 64 % 32 * 64 + n % 64 := by omega
    refine ⟨position + 2, ?_⟩
    conv_rhs => rw [parts]
    exact decodeFrom_two rest (toNat_ofNat_add (by omega)) (toNat_ofNat_add (by omega)) (by omega)
      (by omega) (by omega)
  split
  · rename_i lower upper
    have parts : n = (n / 4096 % 16 * 64 + n / 64 % 64) * 64 + n % 64 := by omega
    refine ⟨position + 3, ?_⟩
    conv_rhs => rw [parts]
    exact decodeFrom_three rest (toNat_ofNat_add (by omega)) (toNat_ofNat_add (by omega))
      (toNat_ofNat_add (by omega)) (by omega) (by omega) (by omega) (by omega) (by omega)
  · rename_i lower
    have parts :
        n = ((n / 262144 % 8 * 64 + n / 4096 % 64) * 64 + n / 64 % 64) * 64 + n % 64 := by
      omega
    refine ⟨position + 4, ?_⟩
    conv_rhs => rw [parts]
    exact decodeFrom_four rest (toNat_ofNat_add (by omega)) (toNat_ofNat_add (by omega))
      (toNat_ofNat_add (by omega)) (toNat_ofNat_add (by omega)) (by omega) (by omega) (by omega)
      (by omega) (by omega) (by omega)

theorem decodeFrom_encode (text : List Char) (position : Nat) (reversed : List Char) :
    decodeFrom position none reversed (encode text) = (reversed.reverse ++ text, .ok none) := by
  induction text generalizing position reversed with
  | nil => simp [encode, decodeFrom]
  | cons c text ih =>
      obtain ⟨later, char_eq⟩ := decodeFrom_utf8EncodeChar c position reversed (encode text)
      have bytes_eq : encode (c :: text) = String.utf8EncodeChar c ++ encode text := rfl
      rw [bytes_eq, char_eq, ih, List.reverse_cons, List.append_assoc]
      rfl

/-- The bytes of a text are decoded to it. -/
theorem decode_encode (text : List Char) : decode (encode text) = .ok text := by
  rw [decode, decodeFrom_encode]
  rfl

end BundleLint.Text.Utf8
