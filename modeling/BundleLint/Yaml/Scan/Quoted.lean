import BundleLint.Yaml.Escape
import BundleLint.Yaml.Scan.Tag

/-!
# Scanning of quoted scalars

Scalars between single or double quotes. Both may go over several lines, of which the breaks are
folded; escapes are known between double quotes only.
-/

namespace BundleLint.Yaml.Scan

open Read
open Text (singleQuote doubleQuote hexValue points)

/-- Characters that stand for themselves between quotes, whichever quotes they are. -/
def isOrdinary (c : Char) : Bool :=
  c != singleQuote && c != doubleQuote && c != '\\' && !isGap c

/-- Line breaks after a first one, with spaces and tabs among them, within a bound on their
number. -/
def quotedBreaks (began : Nat) : (steps : Nat) → Read (List Char)
  | 0 => return []
  | steps + 1 => do
    if ← atDocumentMark then refuse .scanning .quotedScalar began .unexpectedSeparator
    advance (← count 0 isSpaceOrTab)
    match ← lineBreak with
    | none => return []
    | some c => return c :: (← quotedBreaks began steps)

/-- What follows a backslash. -/
def escape (began : Nat) : Read (List CodePoint) := do
  let c ← peek 0
  match escapedChar? c, escapeWidth? c with
  | some escaped, _ =>
    advance 1
    return [.char escaped]
  | none, some width =>
    advance 1
    let expected := "escape sequence of " ++ toString width ++ " hexadecimal numbers"
    let refusal := fun c =>
      refuse .scanning .doubleQuotedScalar began (.expectedCharacter expected c)
    requireHex refusal 0 width
    match codePoint (hexValue (← upcoming width)) with
    | .error fault => throw (.value fault)
    | .ok point =>
      advance width
      return [point]
  | none, none =>
    if isBreak c then
      let _ ← lineBreak
      return points (← quotedBreaks began (← size))
    else refuse .scanning .doubleQuotedScalar began (.unknownEscape c)

/-- Text up to the next gap or the closing quote, within a bound on the number of its pieces. -/
def quotedText (mark : Char) (began : Nat) : (steps : Nat) → Read (List CodePoint)
  | 0 => return []
  | steps + 1 => do
    let text := points (← takeWhile isOrdinary)
    let c ← peek 0
    if mark == singleQuote && c == singleQuote && (← peek 1) == singleQuote then
      advance 2
      return text ++ .char singleQuote :: (← quotedText mark began steps)
    else if (mark == doubleQuote && c == singleQuote) ||
        (mark == singleQuote && (c == doubleQuote || c == '\\')) then
      advance 1
      return text ++ .char c :: (← quotedText mark began steps)
    else if mark == doubleQuote && c == '\\' then
      advance 1
      let escaped ← escape began
      return text ++ escaped ++ (← quotedText mark began steps)
    else return text

/-- A gap in quoted text. A single line break becomes a space, further ones are kept. -/
def quotedGap (began : Nat) : Read (List Char) := do
  let blanks ← takeWhile isSpaceOrTab
  if (← peek 0) == endMark then refuse .scanning .quotedScalar began .unexpectedEnd
  match ← lineBreak with
  | none => return blanks
  | some c =>
    let breaks ← quotedBreaks began (← size)
    if c != '\n' then return c :: breaks
    else if breaks.isEmpty then return [' ']
    else return breaks

/-- The gaps and texts up to the closing quote, within a bound on their number. -/
def quotedRest (mark : Char) (began : Nat) : (steps : Nat) → Read (List CodePoint)
  | 0 => return []
  | steps + 1 => do
    if (← peek 0) == mark then return []
    let gap := points (← quotedGap began)
    let text ← quotedText mark began ((← size) + 1)
    return gap ++ text ++ (← quotedRest mark began steps)

/-- A scalar between quotes of the given kind. -/
def quotedScalar (mark : Char) : Read (List CodePoint) := do
  let began ← offset
  advance 1
  let first ← quotedText mark began ((← size) + 1)
  let rest ← quotedRest mark began ((← size) + 1)
  advance 1
  return first ++ rest

end BundleLint.Yaml.Scan
