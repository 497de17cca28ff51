import BundleLint.Text.Stream
import BundleLint.Yaml.Cursor

/-!
# Admitting text

The characters that a document may hold, and what is known of a document before it is scanned. A
text is checked as a whole. A byte sequence is decoded and checked in pieces, of which the first
two are taken at once; a fault in a later piece comes up only when a character of it is asked for.
-/

namespace BundleLint.Yaml

/-- Characters that a document may hold. -/
def isAllowed (c : Char) : Bool :=
  let n := c.toNat
  n == 0x09 || n == 0x0A || n == 0x0D || (0x20 ≤ n && n ≤ 0x7E) || n == 0x85 ||
    (0xA0 ≤ n && n ≤ 0xD7FF) || (0xE000 ≤ n && n ≤ 0xFFFD) || 0x10000 ≤ n

/-- The first character that a document may not hold, with the number of characters before it. -/
def firstForbidden? (text : List Char) : Option (Char × Nat) :=
  (text.find? fun c => !isAllowed c).map fun c => (c, (text.takeWhile isAllowed).length)

/-- A text as a document. -/
def Source.ofText (text : List Char) : Except Fault Source :=
  match firstForbidden? text with
  | some (c, start) => .error (.unprintable c start)
  | none => .ok { text, ending := none }

/-- Number of characters that are checked at once. -/
def firstPieces : Nat := 2 * Text.pieceSize

/-- The end of the pieces before a forbidden character. -/
def barrierBefore (start : Nat) : Nat :=
  firstPieces + (start - firstPieces) / Text.pieceSize * Text.pieceSize

/-- A byte sequence as a document. -/
def Source.ofBytes (bytes : List UInt8) : Except Fault Source :=
  let stream := Text.stream bytes
  let undecodable :=
    stream.failure.map fun (piece, malformed) =>
      (if piece < 2 then 0 else Text.pieceSize * piece, Fault.undecodable malformed)
  let forbidden :=
    (firstForbidden? stream.text).map fun (c, start) =>
      (if start < firstPieces then 0 else barrierBefore start, Fault.unprintable c start)
  let barrier :=
    match undecodable, forbidden with
    | some first, some second => some (if first.1 ≤ second.1 then first else second)
    | first, second => first.or second
  match barrier with
  | none => .ok { text := stream.text, ending := none }
  | some (size, fault) =>
    if size == 0 then .error fault
    else .ok { text := stream.text.take size, ending := some fault }

/-- A place in a text. -/
structure Position where
  /-- Number of line breaks before it. -/
  line : Nat
  /-- Number of characters since the last line break. -/
  column : Nat
  deriving DecidableEq, Repr

/-- The place in a text after some characters. -/
def positionAfter (text : List Char) (offset : Nat) : Position :=
  let cursor := (Source.cursor { text, ending := none }).steps offset
  { line := cursor.line, column := cursor.column }

end BundleLint.Yaml
