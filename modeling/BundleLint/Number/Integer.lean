import BundleLint.Text.Digit
import BundleLint.Text.Quoted

/-!
# Integer literals

Reading an integer in a base, and the limit on the length of decimal integers in both directions:
a decimal integer of more than 4300 digits is neither read nor written.
-/

namespace BundleLint.Number

open Text

/-- Greatest number of digits of a decimal integer. -/
def digitLimit : Nat := 4300

/-- Why a text is not an integer. -/
inductive IntegerFault where
  /-- The text is not an integer in this base. -/
  | invalid (base : Nat) (literal : List CodePoint)
  /-- The text has too many decimal digits. -/
  | tooManyDigits (count : Nat)
  deriving DecidableEq, Repr

/-- Opening of the two messages about the limit. -/
def digitLimitMessage : String :=
  "Exceeds the limit (" ++ toString digitLimit ++ " digits) for integer string conversion"

/-- Advice that ends the two messages about the limit. -/
def digitLimitAdvice : String :=
  "; use sys.set_int_max_str_digits() to increase the limit"

/-- Greatest number of characters of a quoted literal in a message. -/
def shownLiteralSize : Nat := 200

/-- Wording of a fault. -/
def IntegerFault.message : IntegerFault → String
  | .invalid base literal =>
    "invalid literal for int() with base " ++ toString base ++ ": " ++
      String.ofList ((quote literal).take shownLiteralSize)
  | .tooManyDigits count =>
    digitLimitMessage ++ ": value has " ++ toString count ++ " digits" ++ digitLimitAdvice

/-- Value of a digit in bases up to sixteen. -/
def digitIn? (base : Nat) (c : Char) : Option Nat :=
  (hexDigit? c).filter (· < base)

/-- Number denoted by digits of a base. -/
def ofDigits (base : Nat) (digits : List Char) : Nat :=
  digits.foldl (fun value c => value * base + (digitIn? base c).getD 0) 0

/-- Splits the sign off a number. The first part says whether it is negative. -/
def splitSign (text : List Char) : Bool × List Char :=
  match text with
  | '-' :: rest => (true, rest)
  | '+' :: rest => (false, rest)
  | rest => (false, rest)

/-- Letter that may follow a leading zero to name the base. -/
def baseLetter? (base : Nat) : Option Char :=
  if base == 16 then some 'x' else if base == 8 then some 'o' else if base == 2 then some 'b'
  else none

/-- A number without the zero and letter that name its base. -/
def dropBaseMark (base : Nat) (text : List Char) : List Char :=
  match text with
  | '0' :: c :: rest => if baseLetter? base == some c.toLower then rest else text
  | _ => text

/-- Reads an integer: spaces, a sign, a mark of the base, digits of any script. -/
def readInteger (base : Nat) (literal : List CodePoint) : Except IntegerFault Int :=
  let (negative, unsigned) := splitSign (plainNumber literal)
  let text := dropBaseMark base unsigned
  let digits := text.takeWhile fun c => (digitIn? base c).isSome
  if base == 10 && digitLimit < digits.length then .error (.tooManyDigits digits.length)
  else if digits.isEmpty || digits.length != text.length then .error (.invalid base literal)
  else
    let magnitude : Int := ofDigits base digits
    .ok (if negative then -magnitude else magnitude)

/-- Whether the decimal form of an integer is within the limit. -/
def isWritable (n : Int) : Bool :=
  n.natAbs < Nat.pow 10 digitLimit

/-- Wording of an integer whose decimal form is beyond the limit. -/
def unwritableMessage : String :=
  digitLimitMessage ++ digitLimitAdvice

end BundleLint.Number
