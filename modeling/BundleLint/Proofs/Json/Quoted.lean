import BundleLint.Json
import Mathlib.Data.List.Basic

/-!
# Quoted text can be read back

Between quotes a text stands as its units of sixteen bits, and a reader gets these units back
together with whatever follows the closing quote. Different texts of characters have different
units, so they never stand in the same way.
-/

namespace BundleLint

/-- The units of sixteen bits of a code point. -/
def CodePoint.units : CodePoint → List Nat
  | .char c =>
    if c.toNat < 0x10000 then [c.toNat]
    else [0xD800 + (c.toNat - 0x10000) / 0x400, 0xDC00 + (c.toNat - 0x10000) % 0x400]
  | point => [point.code]

namespace Text

/-- The units of sixteen bits of a text. -/
def units (text : List CodePoint) : List Nat :=
  text.flatMap CodePoint.units

@[simp]
theorem units_nil : units [] = [] := rfl

@[simp]
theorem units_cons (point : CodePoint) (text : List CodePoint) :
    units (point :: text) = point.units ++ units text := rfl

theorem char_bounds (c : Char) : c.toNat < 0xD800 ∨ 0xDFFF < c.toNat ∧ c.toNat < 0x110000 :=
  c.valid

/-- A character that is no pair of units is no half of such a pair, so units tell where the pairs
are. -/
theorem units_char_inj {c d : Char} {front back : List Nat}
    (same : (CodePoint.char c).units ++ front = (CodePoint.char d).units ++ back) :
    c = d ∧ front = back := by
  have c_bounds := char_bounds c
  have d_bounds := char_bounds d
  have of_numbers (numbers : c.toNat = d.toNat) (rests : front = back) :
      c = d ∧ front = back :=
    ⟨Char.toNat_inj.mp numbers, rests⟩
  unfold CodePoint.units at same
  dsimp only at same
  split at same <;> split at same
  · obtain ⟨numbers, rests⟩ := List.cons.inj same
    exact of_numbers numbers rests
  · obtain ⟨first, -⟩ := List.cons.inj same
    omega
  · obtain ⟨first, -⟩ := List.cons.inj same
    omega
  · obtain ⟨first, rest⟩ := List.cons.inj same
    obtain ⟨second, rests⟩ := List.cons.inj rest
    exact of_numbers (by omega) rests

/-- Texts of characters with the same units are the same. -/
theorem units_points_inj {first second : List Char}
    (same : units (points first) = units (points second)) : first = second := by
  have nonempty (c : Char) : (CodePoint.char c).units ≠ [] := by
    unfold CodePoint.units
    dsimp only
    split <;> simp
  induction first generalizing second with
  | nil =>
      cases second with
      | nil => rfl
      | cons d second => simp [points, nonempty] at same
  | cons c first ih =>
      cases second with
      | nil => simp [points, nonempty] at same
      | cons d second =>
          obtain ⟨rfl, rests⟩ := units_char_inj same
          rw [ih rests]

theorem units_ofString_inj {first second : String}
    (same : units (ofString first) = units (ofString second)) : first = second :=
  String.toList_injective (units_points_inj same)

/-! ## Hexadecimal digits -/

theorem hexDigit?_digitChar : ∀ digit < 16, hexDigit? digit.digitChar = some digit := by
  decide

theorem hexValue_append (digits : List Char) (c : Char) :
    hexValue (digits ++ [c]) = hexValue digits * 16 + (hexDigit? c).getD 0 := by
  simp [hexValue, List.foldl_append]

theorem hexValue_toDigits (n : Nat) : hexValue (Nat.toDigits 16 n) = n := by
  induction n using Nat.strongRecOn with
  | ind n ih =>
      by_cases small : n < 16
      · rw [Nat.toDigits_of_lt_base small]
        simp [hexValue, hexDigit?_digitChar n small]
      · rw [Nat.toDigits_of_base_le (by decide) (by omega), hexValue_append,
          ih (n / 16) (by omega), hexDigit?_digitChar _ (Nat.mod_lt n (by decide))]
        simp only [Option.getD_some]
        omega

theorem hexValue_replicate_append (zeros : Nat) (digits : List Char) :
    hexValue (List.replicate zeros '0' ++ digits) = hexValue digits := by
  induction zeros with
  | zero => rfl
  | succ zeros ih =>
      rw [List.replicate_succ, List.cons_append]
      exact ih

/-- Padding with zeros does not change the number. -/
theorem hexValue_hex (width n : Nat) : hexValue (hex width n) = n := by
  unfold hex padded
  rw [hexValue_replicate_append, hexValue_toDigits]

theorem length_hex {width n : Nat} (pos : 0 < width) (fits : n < Nat.pow 16 width) :
    (hex width n).length = width := by
  have digits_le := (Nat.length_toDigits_le_iff (by decide) pos).mpr fits
  unfold hex padded
  rw [List.length_append, List.length_replicate]
  omega

end Text

namespace Json

/-- The unit that the letter of a short escape stands for. -/
def shortEscape (letter : Char) : Nat :=
  match letter with
  | 'n' => 10
  | 'r' => 13
  | 't' => 9
  | 'b' => 8
  | 'f' => 12
  | letter => letter.toNat

/-- Reads the units up to a closing quote, and gives what follows the quote as well. -/
def readUnits? : List Char → Option (List Nat × List Char)
  | [] => none
  | '\x22' :: rest => some ([], rest)
  | '\\' :: 'u' :: a :: b :: c :: d :: rest =>
    (readUnits? rest).map fun (units, rest) => (Text.hexValue [a, b, c, d] :: units, rest)
  | '\\' :: letter :: rest =>
    (readUnits? rest).map fun (units, rest) => (shortEscape letter :: units, rest)
  | c :: rest => (readUnits? rest).map fun (units, rest) => (c.toNat :: units, rest)

/-- Puts units before those that are read from a text. -/
def withUnits (units : List Nat) (rest : List Char) : Option (List Nat × List Char) :=
  (readUnits? rest).map fun (others, rest) => (units ++ others, rest)

theorem withUnits_append (front back : List Nat) (rest : List Char) :
    withUnits (front ++ back) rest =
      (withUnits back rest).map fun (others, rest) => (front ++ others, rest) := by
  unfold withUnits
  cases readUnits? rest <;> simp

theorem readUnits?_unitEscape {unit : Nat} (fits : unit < 0x10000) (rest : List Char) :
    readUnits? (unitEscape unit ++ rest) = withUnits [unit] rest := by
  have length_eq : (Text.hex 4 unit).length = 4 := Text.length_hex (by decide) fits
  have value_eq := Text.hexValue_hex 4 unit
  unfold unitEscape
  match digits : Text.hex 4 unit with
  | [a, b, c, d] =>
      rw [digits] at value_eq
      simp only [List.cons_append, List.nil_append, readUnits?, value_eq]
      rfl
  | [] | [_] | [_, _] | [_, _, _] | _ :: _ :: _ :: _ :: _ :: _ => simp [digits] at length_eq

theorem readUnits?_plain {c : Char} (not_quote : c ≠ '\x22') (not_escape : c ≠ '\\')
    (rest : List Char) : readUnits? (c :: rest) = withUnits [c.toNat] rest := by
  simp [readUnits?, not_escape, withUnits]

theorem units_of_small {c : Char} (small : c.toNat < 0x10000) :
    (CodePoint.char c).units = [c.toNat] := by
  unfold CodePoint.units
  exact if_pos small

/-- A short escape is read back as the character that its letter stands for. -/
theorem readUnits?_escape {c letter : Char} (not_long : letter ≠ 'u')
    (stands : c.toNat = shortEscape letter) (small : c.toNat < 0x10000) (rest : List Char) :
    readUnits? ('\\' :: letter :: rest) = withUnits (CodePoint.char c).units rest := by
  rw [units_of_small small, stands]
  simp [readUnits?, not_long, withUnits]

/-- Each character is read back as its units. -/
theorem readUnits?_escapedChar (c : Char) (rest : List Char) :
    readUnits? (escapedChar c ++ rest) = withUnits (CodePoint.char c).units rest := by
  have bounds := Text.char_bounds c
  unfold escapedChar
  simp only [beq_iff_eq, Bool.or_eq_true, Bool.and_eq_true, decide_eq_true_eq]
  split
  · rename_i marked
    rcases marked with rfl | rfl
    · exact readUnits?_escape (by decide) rfl (by decide) rest
    · exact readUnits?_escape (by decide) rfl (by decide) rest
  rename_i unmarked
  rw [not_or] at unmarked
  split
  · rw [units_of_small (by omega)]
    exact readUnits?_plain unmarked.1 unmarked.2 rest
  split
  · rename_i feed
    exact readUnits?_escape (by decide) (feed ▸ rfl) (feed ▸ by decide) rest
  split
  · rename_i carriage
    exact readUnits?_escape (by decide) (carriage ▸ rfl) (carriage ▸ by decide) rest
  split
  · rename_i tab
    exact readUnits?_escape (by decide) (tab ▸ rfl) (tab ▸ by decide) rest
  split
  · rename_i backspace
    exact readUnits?_escape (by decide) backspace (by omega) rest
  split
  · rename_i feed
    exact readUnits?_escape (by decide) feed (by omega) rest
  split
  · rename_i small
    rw [units_of_small small]
    exact readUnits?_unitEscape small rest
  · rename_i large
    have first_fits : 0xD800 + (c.toNat - 0x10000) / 0x400 < 0x10000 := by omega
    have second_fits : 0xDC00 + (c.toNat - 0x10000) % 0x400 < 0x10000 := by omega
    unfold CodePoint.units
    dsimp only
    rw [if_neg large, List.append_assoc, readUnits?_unitEscape first_fits, withUnits,
      readUnits?_unitEscape second_fits, ← withUnits_append]
    rfl

theorem readUnits?_escapedPoint (point : CodePoint) (rest : List Char) :
    readUnits? (escapedPoint point ++ rest) = withUnits point.units rest := by
  cases point with
  | char c => exact readUnits?_escapedChar c rest
  | surrogate index =>
      refine readUnits?_unitEscape ?_ rest
      simp only [CodePoint.code]
      omega

/-- A quoted text is read back as its units, and what follows the quotes is left. -/
theorem readUnits?_quoted (text : List CodePoint) (rest : List Char) :
    readUnits? (text.flatMap escapedPoint ++ '\x22' :: rest) = some (Text.units text, rest) := by
  induction text with
  | nil => rfl
  | cons point text ih =>
      rw [List.flatMap_cons, List.append_assoc, readUnits?_escapedPoint, withUnits, ih]
      rfl

/-- Quoted texts are told apart by their units, whatever follows them. -/
theorem quoted_append_inj {first second : List CodePoint} {front back : List Char}
    (same : quoted first ++ front = quoted second ++ back) :
    Text.units first = Text.units second ∧ front = back := by
  have rests : first.flatMap escapedPoint ++ '\x22' :: front =
      second.flatMap escapedPoint ++ '\x22' :: back := by
    simpa [quoted] using same
  have read := congrArg readUnits? rests
  rw [readUnits?_quoted, readUnits?_quoted] at read
  exact Prod.mk.inj (Option.some.inj read)

end Json

end BundleLint
