import BundleLint.Text.CodePoint
import BundleLint.Text.Radix

/-!
# JSON documents

Documents of JSON without fractions, written over several lines with two spaces of indentation for
each level and in ASCII only. Members of objects keep their order.
-/

namespace BundleLint

/-- A JSON document. -/
inductive Json where
  /-- The absent value. -/
  | null
  /-- A truth value. -/
  | bool (b : Bool)
  /-- A natural number. -/
  | number (n : Nat)
  /-- Text. -/
  | text (s : List CodePoint)
  /-- An array. -/
  | array (items : List Json)
  /-- An object, whose members are in order. -/
  | object (members : List (String × Json))

namespace Json

/-- The absent value, or what is made of a present one. -/
def ofOption {α : Type} (make : α → Json) : Option α → Json
  | none => .null
  | some value => make value

/-- A string. -/
def string (s : String) : Json :=
  .text s

/-- An escape of sixteen bits. -/
def unitEscape (unit : Nat) : List Char :=
  '\\' :: 'u' :: Text.hex 4 unit

/-- A character as it stands in a string: visible ASCII as itself, the rest escaped. -/
def escapedChar (c : Char) : List Char :=
  let n := c.toNat
  if c == '\x22' || c == '\\' then ['\\', c]
  else if 0x20 ≤ n && n ≤ 0x7E then [c]
  else if c == '\n' then ['\\', 'n']
  else if c == '\r' then ['\\', 'r']
  else if c == '\t' then ['\\', 't']
  else if n == 8 then ['\\', 'b']
  else if n == 12 then ['\\', 'f']
  else if n < 0x10000 then unitEscape n
  else unitEscape (0xD800 + (n - 0x10000) / 0x400) ++ unitEscape (0xDC00 + (n - 0x10000) % 0x400)

/-- A code point as it stands in a string. -/
def escapedPoint : CodePoint → List Char
  | .char c => escapedChar c
  | point => unitEscape point.code

/-- A string between quotes. -/
def quoted (s : List CodePoint) : List Char :=
  '\x22' :: s.flatMap escapedPoint ++ ['\x22']

/-- A new line at a level. -/
def newLine (level : Nat) : List Char :=
  '\n' :: List.replicate (2 * level) ' '

/-- Parts between a pair of marks, each on its own line. -/
def enclosed (opening closing : Char) (level : Nat) (parts : List (List Char)) : List Char :=
  match parts with
  | [] => [opening, closing]
  | parts =>
    let body := List.intercalate (',' :: newLine (level + 1)) parts
    opening :: newLine (level + 1) ++ body ++ newLine level ++ [closing]

mutual

/-- Writes a document at a level. -/
def write (level : Nat) : Json → List Char
  | .null => "null".toList
  | .bool b => (if b then "true" else "false").toList
  | .number n => Nat.toDigits 10 n
  | .text s => quoted s
  | .array items => enclosed '[' ']' level (writeItems (level + 1) items)
  | .object members => enclosed '\x7b' '\x7d' level (writeMembers (level + 1) members)

/-- Writes the items of an array. -/
def writeItems (level : Nat) : List Json → List (List Char)
  | [] => []
  | item :: items => write level item :: writeItems level items

/-- Writes the members of an object. -/
def writeMembers (level : Nat) : List (String × Json) → List (List Char)
  | [] => []
  | (name, value) :: members =>
    (quoted name ++ ':' :: ' ' :: write level value) :: writeMembers level members

end

/-- The text of a document. -/
def pretty (json : Json) : String :=
  String.ofList (json.write 0)

end Json

end BundleLint
