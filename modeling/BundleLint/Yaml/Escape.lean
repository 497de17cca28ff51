import BundleLint.Text.Radix
import BundleLint.Yaml.Fault

/-!
# Escapes between double quotes

The characters that a backslash introduces: those with one letter, and those by code point with a
fixed number of hexadecimal digits.
-/

namespace BundleLint.Yaml

open Text

/-- The character of an escape with one letter. -/
def escapedChar? : Char → Option Char
  | '0' => some '\x00'
  | 'a' => some '\x07'
  | 'b' => some '\x08'
  | 't' => some '\t'
  | '\t' => some '\t'
  | 'n' => some '\n'
  | 'v' => some '\x0b'
  | 'f' => some '\x0c'
  | 'r' => some '\r'
  | 'e' => some '\x1b'
  | ' ' => some ' '
  | '\x22' => some '\x22'
  | '\\' => some '\\'
  | '/' => some '/'
  | 'N' => some '\u0085'
  | '_' => some '\u00a0'
  | 'L' => some '\u2028'
  | 'P' => some '\u2029'
  | _ => none

/-- Number of hexadecimal digits of an escape by code point. -/
def escapeWidth? : Char → Option Nat
  | 'x' => some 2
  | 'u' => some 4
  | 'U' => some 8
  | _ => none

/-- The code point with a number. -/
def codePoint (code : Nat) : Except ValueFault CodePoint :=
  if 0x80000000 ≤ code then .error .characterSize
  else if 0x110000 ≤ code then .error .characterRange
  else .ok (.ofCode code)

end BundleLint.Yaml
