import BundleLint.Text.CodePoint
import BundleLint.Text.Printable
import BundleLint.Text.Radix

/-!
# Quoted text

Text and bytes shown between quotes. The quote is the single one unless the text holds a single
quote and no double quote; characters without a visible form are escaped.
-/

namespace BundleLint.Text

/-- The single quote. -/
def singleQuote : Char := '\x27'

/-- The double quote. -/
def doubleQuote : Char := '\x22'

/-- The quote that a text is shown between. -/
def quoteMark (text : List CodePoint) : Char :=
  if text.contains (.char singleQuote) && !text.contains (.char doubleQuote) then doubleQuote
  else singleQuote

/-- Escape of a code point by its number, with the shortest of the three widths. -/
def codeEscape (code : Nat) : List Char :=
  if code ≤ 0xFF then '\\' :: 'x' :: hex 2 code
  else if code ≤ 0xFFFF then '\\' :: 'u' :: hex 4 code
  else '\\' :: 'U' :: hex 8 code

/-- A character as it stands between quotes. -/
def quotedChar (mark c : Char) : List Char :=
  if c == mark || c == '\\' then ['\\', c]
  else if c == '\n' then ['\\', 'n']
  else if c == '\r' then ['\\', 'r']
  else if c == '\t' then ['\\', 't']
  else if isPrintable c then [c]
  else codeEscape c.toNat

/-- A code point as it stands between quotes. -/
def quotedPoint (mark : Char) : CodePoint → List Char
  | .char c => quotedChar mark c
  | point => codeEscape point.code

/-- Text between quotes. -/
def quote (text : List CodePoint) : List Char :=
  let mark := quoteMark text
  mark :: text.flatMap (quotedPoint mark) ++ [mark]

/-- Text between quotes, as a string. -/
def quoteString (text : List CodePoint) : String :=
  String.ofList (quote text)

/-- A character between quotes. -/
def quoteChar (c : Char) : String :=
  quoteString [.char c]

/-- A byte as it stands between quotes: visible ASCII as itself, the rest escaped. -/
def quotedByte (mark : Char) (byte : UInt8) : List Char :=
  let c := Char.ofNat byte.toNat
  if c == mark || c == '\\' then ['\\', c]
  else if c == '\n' then ['\\', 'n']
  else if c == '\r' then ['\\', 'r']
  else if c == '\t' then ['\\', 't']
  else if 0x20 ≤ byte.toNat && byte.toNat < 0x7F then [c]
  else codeEscape byte.toNat

/-- Bytes between quotes, after the letter that marks them. -/
def quoteBytes (bytes : List UInt8) : String :=
  let mark := quoteMark (bytes.map fun byte => .char (Char.ofNat byte.toNat))
  String.ofList ('b' :: mark :: bytes.flatMap (quotedByte mark) ++ [mark])

end BundleLint.Text
