import BundleLint.Yaml.Cursor

/-!
# Scanning of plain scalars

Scalars without quotes. They end at an indicator, a comment or a line with less indentation, and
line breaks in them are folded.
-/

namespace BundleLint.Yaml.Scan

open Read

/-- The indicators of flow collections, apart from the colon. -/
def isFlowIndicator (c : Char) : Bool :=
  c == ',' || c == '[' || c == ']' || c == '\x7b' || c == '\x7d'

/-- Whether a character after a colon makes it an indicator. -/
def endsColon (inFlow : Bool) (c : Char) : Bool :=
  isGap c || (inFlow && isFlowIndicator c)

/-- Length of the plain text at the start of the known text. -/
def plainLength (inFlow : Bool) : List Char → Nat
  | [] => 0
  | c :: rest =>
    if isGap c || (c == ':' && endsColon inFlow (rest.headD endMark)) ||
        (inFlow && (c == '?' || isFlowIndicator c)) then 0
    else plainLength inFlow rest + 1

/-- Number of characters from here on that are plain text. -/
def plainRun (inFlow : Bool) : Read Nat := do
  let size := plainLength inFlow (← get).rest
  if (← peek size) == ':' then
    let _ ← peek (size + 1)
  return size

/-- What separates two pieces of a plain scalar. -/
inductive PlainGap where
  /-- Text that joins them; empty if they do not go together. -/
  | within (text : List Char)
  /-- A line break or more, as the text that joins them. -/
  | acrossLines (text : List Char)
  /-- A line break before a mark between documents. -/
  | documentMark

/-- Line breaks after a first one, with spaces among them, within a bound on their number. Gives
nothing if a mark between documents follows one of them. -/
def plainBreaks : (steps : Nat) → Read (Option (List Char))
  | 0 => return some []
  | steps + 1 => do
    if ← atDocumentMark then return none
    skipSpaces
    match ← lineBreak with
    | none => return some []
    | some c => return (← plainBreaks steps).map (c :: ·)

/-- The spaces and line breaks after a piece of a plain scalar. -/
def plainGap : Read PlainGap := do
  let blanks ← takeWhile (· == ' ')
  match ← lineBreak with
  | none => return .within blanks
  | some c =>
    match ← plainBreaks (← size) with
    | none => return .documentMark
    | some breaks =>
      return .acrossLines <|
        if c != '\n' then c :: breaks else if breaks.isEmpty then [' '] else breaks

/-- A plain scalar. -/
structure PlainScalar where
  /-- The text. -/
  text : List Char
  /-- Number of characters up to its end. -/
  stop : Nat
  /-- Whether a line break comes between its end and the next token. -/
  beforeBreak : Bool

/-- The gap after a piece of a plain scalar, as the text that joins it to a next piece and whether
it crosses a line break. The text is empty where no piece follows. -/
def PlainGap.joint : PlainGap → List Char × Bool
  | .within text => (text, false)
  | .acrossLines text => (text, true)
  | .documentMark => ([], true)

/-- The rest of a plain scalar from a gap on, within a bound on the number of its pieces. The scalar
ends before the gap, at the given offset, if no piece follows. -/
def plainPieces (inFlow : Bool) (indent : Int) :
    (steps : Nat) → (gap : List Char) → (stop : Nat) → (beforeBreak : Bool) → Read PlainScalar
  | 0, _, stop, beforeBreak => return { text := [], stop, beforeBreak }
  | steps + 1, gap, stop, beforeBreak => do
    let ended : PlainScalar := { text := [], stop, beforeBreak }
    if (← peek 0) == '#' then return ended
    let size ← plainRun inFlow
    if size == 0 then return ended
    let piece ← take size
    let stop ← offset
    let (joint, beforeBreak) := (← plainGap).joint
    if joint.isEmpty || (← peek 0) == '#' || (!inFlow && (← get).column < indent) then
      return { text := gap ++ piece, stop, beforeBreak }
    let later ← plainPieces inFlow indent steps joint stop beforeBreak
    return { later with text := gap ++ piece ++ later.text }

/-- A plain scalar below an indentation. -/
def plainScalar (inFlow : Bool) (parent : Int) : Read PlainScalar := do
  plainPieces inFlow (parent + 1) ((← size) + 1) [] (← offset) false

end BundleLint.Yaml.Scan
