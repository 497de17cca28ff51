import BundleLint.Yaml.Fault

/-!
# A place in the text of a document

The cursor from which a document is scanned. It counts characters, lines and columns, and it knows
what happens beyond the known text: either the document ends there, or a fault comes up as soon as
a character beyond it is asked for.
-/

namespace BundleLint.Yaml

/-- The text of a document, as far as it can be had. -/
structure Source where
  /-- The characters. -/
  text : List Char
  /-- Fault that comes up beyond them; nothing if the document ends there. -/
  ending : Option Fault

/-- A place in a document. -/
structure Cursor where
  /-- The characters to come. -/
  rest : List Char
  /-- Fault that comes up beyond them; nothing if the document ends there. -/
  ending : Option Fault
  /-- Number of characters before the place. -/
  offset : Nat
  /-- Number of line breaks before the place. -/
  line : Nat
  /-- Number of characters since the last line break. -/
  column : Nat
  /-- Number of characters of the whole text. -/
  size : Nat

/-- The start of a document. -/
def Source.cursor (source : Source) : Cursor :=
  { rest := source.text, ending := source.ending, offset := 0, line := 0, column := 0
    size := source.text.length }

/-- The character that stands for the end of the document. -/
def endMark : Char := '\x00'

/-- The byte-order mark. -/
def byteOrderMark : Char := '\ufeff'

/-- Characters that break a line. -/
def isBreak (c : Char) : Bool :=
  c == '\n' || c == '\r' || c == '\u0085' || c == '\u2028' || c == '\u2029'

/-- Characters that break a line, and the end of the document. -/
def isBreakOrEnd (c : Char) : Bool :=
  c == endMark || isBreak c

/-- Characters that break a line, the space, and the end of the document. -/
def isSpaceOrEnd (c : Char) : Bool :=
  c == ' ' || isBreakOrEnd c

/-- Space and tab. -/
def isSpaceOrTab (c : Char) : Bool :=
  c == ' ' || c == '\t'

/-- Characters that separate tokens, and the end of the document. -/
def isGap (c : Char) : Bool :=
  c == '\t' || isSpaceOrEnd c

/-- ASCII letters and digits, the hyphen and the underscore. -/
def isWordChar (c : Char) : Bool :=
  ('0' ≤ c && c ≤ '9') || ('A' ≤ c && c ≤ 'Z') || ('a' ≤ c && c ≤ 'z') || c == '-' || c == '_'

namespace Cursor

/-- The place after one more character. A carriage return with a line feed after it is half of one
line break; the byte-order mark has no width. -/
def step (cursor : Cursor) : Cursor :=
  match cursor.rest with
  | [] => cursor
  | c :: rest =>
    let breaks :=
      if c == '\r' then
        match rest with
        | '\n' :: _ => false
        | _ => true
      else isBreak c
    if breaks then
      { cursor with rest, offset := cursor.offset + 1, line := cursor.line + 1, column := 0 }
    else
      { cursor with
        rest
        offset := cursor.offset + 1
        column := if c == byteOrderMark then cursor.column else cursor.column + 1 }

/-- The place after some more characters. -/
def steps (cursor : Cursor) : Nat → Cursor
  | 0 => cursor
  | count + 1 => cursor.step.steps count

end Cursor

/-- A computation that reads a document from a place on. -/
abbrev Read := StateT Cursor (Except Fault)

namespace Read

/-- The rest of the text from a distance on, if the document reaches that far. -/
def demand (distance : Nat) : Read (List Char) := do
  let cursor ← get
  match cursor.rest.drop distance, cursor.ending with
  | [], some fault => throw fault
  | rest, _ => return rest

/-- The character at a distance. -/
def peek (distance : Nat) : Read Char :=
  return (← demand distance).headD endMark

/-- The next characters. -/
def upcoming (count : Nat) : Read (List Char) := do
  let _ ← demand (count - 1)
  return (← get).rest.take count

/-- Number of characters from a distance on that satisfy a condition. -/
def count (distance : Nat) (condition : Char → Bool) : Read Nat := do
  let cursor ← get
  let size := ((cursor.rest.drop distance).takeWhile condition).length
  let _ ← demand (distance + size)
  return size

/-- Moves on over some characters. -/
def advance (distance : Nat) : Read Unit := do
  let _ ← demand distance
  modify (·.steps distance)

/-- Moves on over some characters and gives them. -/
def take (distance : Nat) : Read (List Char) := do
  let text ← upcoming distance
  advance distance
  return text

/-- Moves on over the characters that satisfy a condition and gives them. -/
def takeWhile (condition : Char → Bool) : Read (List Char) := do
  take (← count 0 condition)

/-- Moves on over spaces. -/
def skipSpaces : Read Unit := do
  advance (← count 0 (· == ' '))

/-- Moves on to the end of the line. -/
def skipLine : Read Unit := do
  advance (← count 0 fun c => !isBreakOrEnd c)

/-- Number of characters before the place. -/
def offset : Read Nat :=
  return (← get).offset

/-- Number of characters of the whole text, which bounds the number of steps. -/
def size : Read Nat :=
  return (← get).size

/-- Moves on over a line break and gives what it stands for; gives nothing if there is none. -/
def lineBreak : Read (Option Char) := do
  let c ← peek 0
  if c == '\r' then
    let pair := (← upcoming 2) == ['\r', '\n']
    advance (if pair then 2 else 1)
    return some '\n'
  else if c == '\n' || c == '\u0085' then
    let _ ← upcoming 2
    advance 1
    return some '\n'
  else if isBreak c then
    advance 1
    return some c
  else return none

/-- Whether three equal marks stand here before a gap, as between documents. -/
def atMarks (mark : Char) : Read Bool := do
  if (← upcoming 3) == [mark, mark, mark] then
    return isGap (← peek 3)
  else return false

/-- Whether a mark between documents stands here. -/
def atDocumentMark : Read Bool := do
  if ← atMarks '-' then return true
  atMarks '.'

/-- Refuses the document here. -/
def refuse {α : Type} (activity : Activity) (subject : Subject) (began : Nat) (problem : Problem) :
    Read α := do
  throw (Fault.during activity subject began problem (← offset))

/-- Moves on over spaces, a comment and the end of the line; anything else is refused. -/
def finishLine (subject : Subject) (began : Nat) : Read Unit := do
  skipSpaces
  if (← peek 0) == '#' then skipLine
  let c ← peek 0
  if !isBreakOrEnd c then
    refuse .scanning subject began (.expectedCharacter "a comment or a line break" c)
  let _ ← lineBreak

end Read

end BundleLint.Yaml
