import BundleLint.Yaml.Cursor

/-!
# Scanning of block scalars

Literal and folded scalars, whose lines are marked by indentation. The header may tell the
indentation and what becomes of the line breaks at the end.
-/

namespace BundleLint.Yaml.Scan

open Read

/-- What becomes of the line breaks at the end of a block scalar. -/
inductive Chomping where
  /-- All of them are dropped. -/
  | strip
  /-- The first one is kept. -/
  | clip
  /-- All of them are kept. -/
  | keep
  deriving DecidableEq, Repr

/-- Reads the sign that tells the chomping, if there is one. -/
def chomping? : Read (Option Chomping) := do
  let c ← peek 0
  if c == '+' then
    advance 1
    return some .keep
  else if c == '-' then
    advance 1
    return some .strip
  else return none

/-- Reads the digit that tells the indentation, if there is one. -/
def increment? (began : Nat) : Read (Option Nat) := do
  let c ← peek 0
  if '0' ≤ c && c ≤ '9' then
    if c == '0' then refuse .scanning .blockScalar began .zeroIndentation
    advance 1
    return some (c.toNat - '0'.toNat)
  else return none

/-- Reads the header of a block scalar, of which both parts may come first. -/
def blockHeader (began : Nat) : Read (Chomping × Option Nat) := do
  let first ← chomping?
  let increment ← increment? began
  let second ← if first.isNone && increment.isSome then chomping? else pure none
  let c ← peek 0
  if !isSpaceOrEnd c then
    refuse .scanning .blockScalar began
      (.expectedCharacter "chomping or indentation indicators" c)
  return ((first.or second).getD .clip, increment)

/-- Blank lines with spaces among them, within a bound on their number. Gives the line breaks, the
greatest column that was reached and the place after the last break. -/
def leadingBlanks : (steps : Nat) → (deepest stop : Nat) → Read (List Char × Nat × Nat)
  | 0, deepest, stop => return ([], deepest, stop)
  | steps + 1, deepest, stop => do
    skipSpaces
    let deepest := max deepest (← get).column
    match ← lineBreak with
    | none => return ([], deepest, stop)
    | some c =>
      let (breaks, deepest, stop) ← leadingBlanks steps deepest (← offset)
      return (c :: breaks, deepest, stop)

/-- Moves on over spaces up to a column. -/
def skipIndentation (indent : Nat) : Read Unit := do
  let column := (← get).column
  let size ← count 0 (· == ' ')
  advance (min size (indent - column))

/-- Blank lines below an indentation, within a bound on their number. Gives the line breaks and the
place after the last one. -/
def blankLines (indent : Nat) : (steps : Nat) → (stop : Nat) → Read (List Char × Nat)
  | 0, stop => return ([], stop)
  | steps + 1, stop => do
    skipIndentation indent
    match ← lineBreak with
    | none => return ([], stop)
    | some c =>
      let (breaks, stop) ← blankLines indent steps (← offset)
      return (c :: breaks, stop)

/-- What stands between two lines of a block scalar. -/
def blockJoin (folded leadingText followingText : Bool) (lineEnd : Option Char)
    (breaks : List Char) : List Char :=
  if folded && lineEnd == some '\n' && leadingText && followingText then
    if breaks.isEmpty then [' '] else []
  else lineEnd.toList

/-- The lines of a block scalar, after the given blank lines. Gives the text with the place where
it stops. -/
def blockLines (folded : Bool) (chomping : Chomping) (indent : Nat) :
    (steps : Nat) → (breaks : List Char) → (stop : Nat) → Read (List Char × Nat)
  | 0, _, stop => return ([], stop)
  | steps + 1, breaks, _ => do
    let startsText := !isSpaceOrTab (← peek 0)
    let text ← takeWhile fun c => !isBreakOrEnd c
    let lineEnd ← lineBreak
    let (next, stop) ← blankLines indent (← size) (← offset)
    let c ← peek 0
    if (← get).column == indent && c != endMark then
      let join := blockJoin folded startsText (!isSpaceOrTab c) lineEnd next
      let (rest, stop) ← blockLines folded chomping indent steps next stop
      return (breaks ++ text ++ join ++ rest, stop)
    else
      let ending :=
        match chomping with
        | .strip => []
        | .clip => lineEnd.toList
        | .keep => lineEnd.toList ++ next
      return (breaks ++ text ++ ending, stop)

/-- A literal or folded scalar below an indentation, with the place where it stops. -/
def blockScalar (parent : Int) (folded : Bool) : Read (List Char × Nat) := do
  let began ← offset
  advance 1
  let (chomping, increment) ← blockHeader began
  finishLine .blockScalar began
  let least := max (parent + 1).toNat 1
  let (breaks, indent, stop) ←
    match increment with
    | none =>
      let (breaks, deepest, stop) ← leadingBlanks (← size) 0 (← offset)
      pure (breaks, max least deepest, stop)
    | some increment =>
      let indent := least + increment - 1
      let (breaks, stop) ← blankLines indent (← size) (← offset)
      pure (breaks, indent, stop)
  if (← get).column == indent && (← peek 0) != endMark then
    blockLines folded chomping indent (← size) breaks stop
  else
    return (if chomping == .keep then breaks else [], stop)

end BundleLint.Yaml.Scan
