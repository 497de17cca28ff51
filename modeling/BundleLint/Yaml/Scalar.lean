import BundleLint.Number.Real
import BundleLint.Text.Lowercase
import BundleLint.Text.Split
import BundleLint.Yaml.Fault

/-!
# Values of scalars

The value that the text of a scalar has under a type. The text need not have the form that would
give it the type, so every reading can fail.
-/

namespace BundleLint.Yaml.Scalar

open Number (readInteger readReal? applySign infinity notANumber)

/-- Words for truth values in lower case. -/
def truthWords : List (String × Bool) :=
  [("yes", true), ("no", false), ("true", true), ("false", false), ("on", true), ("off", false)]

/-- A truth value. -/
def readBool (text : List CodePoint) : Except Fault Bool :=
  let word := Text.lower text
  match truthWords.find? fun (known, _) => Text.ofString known == word with
  | some (_, truth) => .ok truth
  | none => .error (.unknownWord word)

/-- Splits the sign off the text of a number. The first part says whether it is negative. -/
def splitSign (text : List CodePoint) : Bool × List CodePoint :=
  match text with
  | .char '-' :: rest => (true, rest)
  | .char '+' :: rest => (false, rest)
  | rest => (false, rest)

/-- Text of a number without underscores, which do not count. -/
def withoutUnderscores (text : List CodePoint) : List CodePoint :=
  text.filter (· != .char '_')

/-- What stands between the parts of a number to the base sixty. -/
def sixtiesMark : CodePoint := .char ':'

/-- An integer to a base. -/
def integerIn (base : Nat) (text : List CodePoint) : Except Fault Int :=
  (readInteger base text).mapError fun fault => .value (.integer fault)

/-- An integer without its sign. Leading marks tell the base; colons separate the digits to the
base sixty. -/
def readMagnitude (text : List CodePoint) : Except Fault Int :=
  match text with
  | [] => .error .emptyNumber
  | [.char '0'] => .ok 0
  | .char '0' :: .char 'b' :: digits => integerIn 2 digits
  | .char '0' :: .char 'x' :: digits => integerIn 16 digits
  | .char '0' :: _ => integerIn 8 text
  | _ =>
    if text.contains sixtiesMark then do
      let parts ← (Text.splitAt sixtiesMark text).mapM (integerIn 10)
      return parts.foldl (fun value part => value * 60 + part) 0
    else integerIn 10 text

/-- An integer. -/
def readInt (text : List CodePoint) : Except Fault Int :=
  match withoutUnderscores text with
  | [] => .error .emptyNumber
  | shown => do
    let (negative, unsigned) := splitSign shown
    let magnitude ← readMagnitude unsigned
    return if negative then -magnitude else magnitude

/-- A floating-point number without the forms of its own. -/
def realOf (text : List CodePoint) : Except Fault Float :=
  match readReal? text with
  | some x => .ok x
  | none => .error (.value (.real text))

/-- The sum of digits, the last one first, each times its power of sixty. -/
def sumSixties (sum : Float) (power : Nat) : List Float → Except Fault Float
  | [] => .ok sum
  | digit :: digits =>
    match Number.ofNat? power with
    | some factor => sumSixties (sum + digit * factor) (power * 60) digits
    | none => .error (.value .realRange)

/-- Text of a floating-point number in lower case and without underscores. -/
def plainReal (text : List CodePoint) : List CodePoint :=
  Text.lower (withoutUnderscores text)

/-- Name of infinity. -/
def infinityName : List CodePoint := ".inf"

/-- Name of the value that is no number. -/
def notANumberName : List CodePoint := ".nan"

/-- Whether a text is the name of the value that is no number, perhaps with a sign. -/
def isNotANumber (text : List CodePoint) : Bool :=
  (splitSign (plainReal text)).2 == notANumberName

/-- A floating-point number. -/
def readFloat (text : List CodePoint) : Except Fault Float :=
  match plainReal text with
  | [] => .error .emptyNumber
  | shown => do
    let (negative, unsigned) := splitSign shown
    if unsigned == infinityName then return applySign negative infinity
    else if unsigned == notANumberName then return notANumber
    else if unsigned.contains sixtiesMark then
      let parts ← (Text.splitAt sixtiesMark unsigned).mapM realOf
      return applySign negative (← sumSixties 0.0 1 parts.reverse)
    else return applySign negative (← realOf unsigned)

private def isAscii (point : CodePoint) : Bool :=
  point.code < 128

/-- Bytes in base64, which start after this many characters. -/
def readBinary (text : List CodePoint) (start : Nat) : Except Fault (List UInt8) :=
  match text.dropWhile isAscii with
  | first :: rest =>
    let position := (text.takeWhile isAscii).length
    let count := (rest.takeWhile fun point => !isAscii point).length + 1
    .error (.plain (.notAscii first position count) start)
  | [] =>
    (Base64.decode (text.filterMap CodePoint.char?)).mapError fun fault =>
      .plain (.base64 fault) start

end BundleLint.Yaml.Scalar
