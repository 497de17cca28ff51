import BundleLint.Yaml.Cursor
import BundleLint.Yaml.Token

/-!
# Scanning of tags and names

Tags, the handles and addresses in them, and the names of anchors. Bytes of an address may be
escaped by a percent sign and two hexadecimal digits; a run of escaped bytes is UTF-8.
-/

namespace BundleLint.Yaml.Scan

open Read
open Text (isHexDigit hexValue)

/-- Characters of an address in a tag, apart from the percent sign. -/
def isAddressChar (c : Char) : Bool :=
  isWordChar c || ";/?:@&=+$,.!~*'()[]".toList.contains c

/-- Requires hexadecimal digits from a distance on; the first other character is refused. -/
def requireHex (refusal : Char → Read Unit) (distance : Nat) : (width : Nat) → Read Unit
  | 0 => return
  | width + 1 => do
    let c ← peek distance
    if !isHexDigit c then refusal c
    requireHex refusal (distance + 1) width

/-- A run of escaped bytes, within a bound on their number. -/
def escapedBytes (subject : Subject) (began : Nat) : (steps : Nat) → Read (List UInt8)
  | 0 => return []
  | steps + 1 => do
    if (← peek 0) != '%' then return []
    advance 1
    let refusal := fun c =>
      refuse .scanning subject began
        (.expectedCharacter "URI escape sequence of 2 hexadecimal numbers" c)
    requireHex refusal 0 2
    let byte := UInt8.ofNat (hexValue (← take 2))
    return byte :: (← escapedBytes subject began steps)

/-- The text of a run of escaped bytes. -/
def escapedText (subject : Subject) (began : Nat) : Read (List Char) := do
  let start ← offset
  match Text.Utf8.decode (← escapedBytes subject began (← size)) with
  | .ok text => return text
  | .error malformed =>
    throw (Fault.during .scanning subject began (.malformedEscape malformed) start)

/-- The rest of an address, within a bound on the number of its pieces. -/
def addressRest (subject : Subject) (began : Nat) : (steps : Nat) → Read (List Char)
  | 0 => return []
  | steps + 1 => do
    let text ← takeWhile isAddressChar
    if (← peek 0) == '%' then
      let escaped ← escapedText subject began
      return text ++ escaped ++ (← addressRest subject began steps)
    else return text

/-- An address. -/
def address (subject : Subject) (began : Nat) : Read (List Char) := do
  let c ← peek 0
  if !isAddressChar c && c != '%' then
    refuse .parsing subject began (.expectedCharacter "URI" c)
  addressRest subject began ((← size) + 1)

/-- A tag handle: an exclamation mark, alone or with a word and a second one. -/
def handle (subject : Subject) (began : Nat) : Read (List Char) := do
  let c ← peek 0
  if c != '!' then refuse .scanning subject began (.expectedCharacter "'!'" c)
  if (← peek 1) == ' ' then take 1
  else
    let size ← count 1 isWordChar
    let c ← peek (size + 1)
    if c != '!' then
      advance (size + 1)
      refuse .scanning subject began (.expectedCharacter "'!'" c)
    take (size + 2)

/-- Whether an exclamation mark comes before the next space or break, from the second character
on. -/
def hasSecondMark : Read Bool := do
  let size ← count 1 fun c => c != '!' && !isSpaceOrEnd c
  return (← peek (size + 1)) == '!'

/-- The handle and the address of a tag. -/
def writtenTag (began : Nat) : Read WrittenTag := do
  let c ← peek 1
  if c == '<' then
    advance 2
    let suffix ← address .tag began
    let c ← peek 0
    if c != '>' then refuse .parsing .tag began (.expectedCharacter "'>'" c)
    advance 1
    return { handle := none, suffix }
  else if isGap c then
    advance 1
    return { handle := none, suffix := ['!'] }
  else if ← hasSecondMark then
    let name ← handle .tag began
    return { handle := some name, suffix := ← address .tag began }
  else
    advance 1
    return { handle := some ['!'], suffix := ← address .tag began }

/-- A tag, which ends before a space or a break. -/
def tag : Read Token := do
  let began ← offset
  let written ← writtenTag began
  let c ← peek 0
  if !isSpaceOrEnd c then refuse .scanning .tag began (.expectedCharacter "' '" c)
  return .tag written

/-- Whether a character may follow the name of an anchor. -/
def endsName (c : Char) : Bool :=
  isGap c || "?:,]%@\x7d\x60".toList.contains c

/-- The name of an anchor, after its indicator. -/
def name (subject : Subject) : Read (List Char) := do
  let began ← offset
  advance 1
  let size ← count 0 isWordChar
  let text ← take size
  let c ← peek 0
  if size == 0 || !endsName c then
    refuse .scanning subject began
      (.expectedCharacter "alphabetic or numeric character" c)
  return text

end BundleLint.Yaml.Scan
