/-!
# Code points

The text of a value is a list of code points. They are characters, but an escape can also name a
surrogate, which is half of a character and no character itself. Where text is shown, two halves
that follow each other are the character that they make.
-/

namespace BundleLint

/-- A code point of text. -/
inductive CodePoint where
  /-- A character. -/
  | char (c : Char)
  /-- A surrogate by its number: the lower 1024 are first halves, the others second halves. -/
  | surrogate (index : Fin 2048)
  deriving DecidableEq, Repr

namespace CodePoint

/-- The number of a code point. -/
def code : CodePoint → Nat
  | char c => c.toNat
  | surrogate index => 0xD800 + index

/-- The code point with a number below 0x110000. -/
def ofCode (code : Nat) : CodePoint :=
  if h : 0xD800 ≤ code ∧ code < 0xE000 then surrogate ⟨code - 0xD800, by omega⟩
  else char (Char.ofNat code)

/-- Whether a code point is a character that satisfies a condition. -/
def satisfies (condition : Char → Bool) : CodePoint → Bool
  | char c => condition c
  | surrogate _ => false

/-- The character, if the code point is one. -/
def char? : CodePoint → Option Char
  | char c => some c
  | surrogate _ => none

end CodePoint

namespace Text

/-- Characters as code points. -/
def points (text : List Char) : List CodePoint :=
  text.map .char

/-- A string as code points. -/
def ofString (s : String) : List CodePoint :=
  points s.toList

/-- The characters of a text without surrogates. -/
def characters? (text : List CodePoint) : Option (List Char) :=
  text.mapM CodePoint.char?

/-- The character of a first and a second half, which are given by their numbers. -/
def joinHalves (first second : Nat) : Char :=
  Char.ofNat (0x10000 + first * 1024 + (second - 1024))

/-- Text as it is shown. A half that stands alone is shown as the replacement character. -/
def shown : List CodePoint → List Char
  | [] => []
  | .char c :: rest => c :: shown rest
  | .surrogate first :: .surrogate second :: rest =>
    if first < 1024 && 1024 ≤ second then joinHalves first second :: shown rest
    else '\ufffd' :: shown (.surrogate second :: rest)
  | .surrogate _ :: rest => '\ufffd' :: shown rest

/-- Text as it is shown, as a string. -/
def shownString (text : List CodePoint) : String :=
  String.ofList (shown text)

/-- Whether a text comes before another one in the order of code points. -/
def comesBefore (left right : List CodePoint) : Bool :=
  left.map CodePoint.code < right.map CodePoint.code

end Text

instance : Coe String (List CodePoint) :=
  ⟨Text.ofString⟩

end BundleLint
