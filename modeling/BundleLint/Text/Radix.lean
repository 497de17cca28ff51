/-!
# Digits in a fixed width

Numbers written with a least number of digits, as escapes, dates and offsets need them.
-/

namespace BundleLint.Text

/-- Value of a hexadecimal digit in either case. -/
def hexDigit? (c : Char) : Option Nat :=
  if '0' ≤ c && c ≤ '9' then some (c.toNat - '0'.toNat)
  else if 'a' ≤ c && c ≤ 'f' then some (c.toNat - 'a'.toNat + 10)
  else if 'A' ≤ c && c ≤ 'F' then some (c.toNat - 'A'.toNat + 10)
  else none

/-- Whether a character is a hexadecimal digit. -/
def isHexDigit (c : Char) : Bool :=
  (hexDigit? c).isSome

/-- Number denoted by hexadecimal digits; other characters count as zero. -/
def hexValue (digits : List Char) : Nat :=
  digits.foldl (fun value c => value * 16 + (hexDigit? c).getD 0) 0

/-- Digits of a number in a base up to sixteen, padded with zeros to a least width. -/
def padded (base width n : Nat) : List Char :=
  let digits := Nat.toDigits base n
  List.replicate (width - digits.length) '0' ++ digits

/-- Lower-case hexadecimal digits, padded with zeros to a least width. -/
def hex (width n : Nat) : List Char :=
  padded 16 width n

/-- Decimal digits, padded with zeros to a least width. -/
def decimal (width n : Nat) : List Char :=
  padded 10 width n

end BundleLint.Text
