import BundleLint.Text.Digit
import BundleLint.Number.Integer

/-!
# Floating-point literals

Reading a floating-point number: a decimal fraction with an optional exponent, or a name of
infinity or of the value that is no number. The result is the double nearest to the decimal.
-/

namespace BundleLint.Number

open Text

/-- Positive infinity. -/
def infinity : Float := 1.0 / 0.0

/-- The value that is no number. -/
def notANumber : Float := 0.0 / 0.0

/-- Least exponent of two of the last bit of a double. -/
def leastBitExponent : Int := -1074

/-- Nearest integer to a quotient, the even one of two that are equally near. -/
def roundQuotient (numerator denominator : Nat) : Nat :=
  let quotient := numerator / denominator
  let remainder := 2 * (numerator % denominator)
  if denominator < remainder || (remainder == denominator && quotient % 2 == 1) then quotient + 1
  else quotient

/-- A quotient in units of a power of two, as a nearest integer. -/
def scaledQuotient (numerator denominator : Nat) (exponent : Int) : Nat :=
  roundQuotient (numerator * Nat.pow 2 (-exponent).toNat)
    (denominator * Nat.pow 2 exponent.toNat)

/-- Exponent of two of the last bit of the double nearest to a positive quotient. -/
def lastBitExponent (numerator denominator : Nat) : Int :=
  let guess : Int := (numerator.log2 : Int) - denominator.log2 - 52
  let small :=
    numerator * Nat.pow 2 (-guess).toNat < denominator * Nat.pow 2 guess.toNat * Nat.pow 2 52
  max leastBitExponent (if small then guess - 1 else guess)

/-- The double nearest to a positive quotient. -/
def ofQuotient (numerator denominator : Nat) : Float :=
  let exponent := lastBitExponent numerator denominator
  let mantissa := scaledQuotient numerator denominator exponent
  let bits := (exponent - leastBitExponent).toNat * Nat.pow 2 52 + mantissa
  if 2047 * Nat.pow 2 52 ≤ bits then infinity else Float.ofBits (UInt64.ofNat bits)

/-- The double nearest to `mantissa * 10 ^ exponent`. -/
def ofDecimal (mantissa : Nat) (exponent : Int) : Float :=
  let magnitude : Int := (Nat.toDigits 10 mantissa).length + exponent
  if mantissa == 0 then 0.0
  else if 310 < magnitude then infinity
  else if magnitude < -326 then 0.0
  else ofQuotient (mantissa * Nat.pow 10 exponent.toNat) (Nat.pow 10 (-exponent).toNat)

/-- The double nearest to an integer, unless it is beyond the greatest double. -/
def ofNat? (n : Nat) : Option Float :=
  let nearest := ofDecimal n 0
  if nearest.isInf then none else some nearest

/-- A number with a sign. -/
def applySign (negative : Bool) (x : Float) : Float :=
  if negative then -x else x

private def isDigit (c : Char) : Bool :=
  '0' ≤ c && c ≤ '9'

/-- Exponent part of a decimal, which is empty or a letter with an integer. -/
def readExponent? (text : List Char) : Option Int :=
  match text with
  | [] => some 0
  | c :: rest =>
    if c.toLower == 'e' then
      let (negative, digits) := splitSign rest
      if digits.isEmpty || !digits.all isDigit then none
      else
        let magnitude : Int := ofDigits 10 digits
        some (if negative then -magnitude else magnitude)
    else none

/-- Unsigned decimal: digits with at most one point among them, and an exponent. -/
def readDecimal? (text : List Char) : Option Float :=
  let whole := text.takeWhile isDigit
  let rest := text.dropWhile isDigit
  let (fraction, tail) :=
    match rest with
    | '.' :: rest => (rest.takeWhile isDigit, rest.dropWhile isDigit)
    | rest => ([], rest)
  if whole.isEmpty && fraction.isEmpty then none
  else
    (readExponent? tail).map fun exponent =>
      ofDecimal (ofDigits 10 (whole ++ fraction)) (exponent - fraction.length)

/-- Reads a floating-point number; nothing if the text is none. -/
def readReal? (literal : List CodePoint) : Option Float :=
  let (negative, text) := splitSign (plainNumber literal)
  let word := text.map Char.toLower
  if word == "inf".toList || word == "infinity".toList then some (applySign negative infinity)
  else if word == "nan".toList then some notANumber
  else (readDecimal? text).map (applySign negative)

end BundleLint.Number
