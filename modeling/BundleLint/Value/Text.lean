import BundleLint.Number.Integer
import BundleLint.Text.Quoted
import BundleLint.Value

/-!
# Values in words

The text of a value in a message. At the top text stands for itself and dates are written in
digits; inside containers text is quoted and dates are written as the calls that build them. A
container inside itself is shown by dots. There is no text when an integer has too many digits or
when values are nested too deeply.
-/

namespace BundleLint

/-- Why something has no text. -/
inductive TextFault where
  /-- An integer has too many digits. -/
  | digits
  /-- Values are nested too deeply. -/
  | depth
  /-- A part of a text that is put together is no text but has the named type. -/
  | part (index : Nat) (typeName : String)
  /-- What should be told breaks off with an exception of its own. -/
  | raised (kind message : String)
  deriving DecidableEq, Repr

namespace TextFault

/-- Kind of the exception that comes up instead of a text. -/
def kind : TextFault → String
  | .digits => "ValueError"
  | .depth => "RecursionError"
  | .part .. => "TypeError"
  | .raised kind _ => kind

/-- Wording of that exception. -/
def message : TextFault → String
  | .digits => Number.unwritableMessage
  | .depth => "maximum recursion depth exceeded while getting the repr of an object"
  | .part index typeName =>
    "sequence item " ++ toString index ++ ": expected str instance, " ++ typeName ++ " found"
  | .raised _ message => message

end TextFault

namespace Value

open Text

/-- Greatest depth of values that have a text. -/
def depthLimit : Nat := 960

/-- Elements between commas. -/
private def listed (left right : String) (elements : List String) : String :=
  left ++ ", ".intercalate elements ++ right

/-- Label and labels above it, unless it is among them. -/
private def enter? (path : List Nat) (label : Option Nat) : Option (List Nat) :=
  match label with
  | none => some path
  | some label => if path.contains label then none else some (label :: path)

mutual

/-- Text of a value as it stands in a container, below the containers of the given labels. Each
value on the way takes one of the steps that are left. -/
def literalBelow (path : List Nat) : (steps : Nat) → Value → Except TextFault String
  | 0, _ => .error .depth
  | _ + 1, .null => .ok "None"
  | _ + 1, .bool b => .ok (if b then "True" else "False")
  | _ + 1, .int n => if Number.isWritable n then .ok (toString n) else .error .digits
  | _ + 1, .float x => .ok (Number.realText x)
  | _ + 1, .text s => .ok (quoteString s)
  | _ + 1, .bytes content => .ok (quoteBytes content)
  | _ + 1, .date day => .ok day.callText
  | _ + 1, .moment time => .ok time.callText
  | steps + 1, .list label items =>
    match enter? path label with
    | none => .ok "[...]"
    | some path => (literalsBelow path steps items).map (listed "[" "]")
  | steps + 1, .map label entries =>
    match enter? path label with
    | none => .ok "\x7b...\x7d"
    | some path => (entriesBelow path steps entries).map (listed "\x7b" "\x7d")
  | _ + 1, .set [] => .ok "set()"
  | steps + 1, .set elements => (literalsBelow path steps elements).map (listed "\x7b" "\x7d")
  | steps + 1, .tuple items =>
    (literalsBelow path steps items).map fun texts =>
      match texts with
      | [single] => "(" ++ single ++ ",)"
      | texts => listed "(" ")" texts
  | _ + 1, .back _ isMap => .ok (if isMap then "\x7b...\x7d" else "[...]")

/-- Texts of several values. -/
def literalsBelow (path : List Nat) (steps : Nat) : List Value → Except TextFault (List String)
  | [] => .ok []
  | value :: rest => do
    let text ← literalBelow path steps value
    let texts ← literalsBelow path steps rest
    return text :: texts

/-- Texts of keys with their values. -/
def entriesBelow (path : List Nat) (steps : Nat) :
    List (Value × Value) → Except TextFault (List String)
  | [] => .ok []
  | (key, value) :: rest => do
    let keyText ← literalBelow path steps key
    let text ← literalBelow path steps value
    let texts ← entriesBelow path steps rest
    return (keyText ++ ": " ++ text) :: texts

end

/-- Text of a value as it stands in a container. -/
def literal (value : Value) : Except TextFault String :=
  literalBelow [] depthLimit value

/-- Text of a value on its own. -/
def display : Value → Except TextFault (List CodePoint)
  | .text s => .ok s
  | .date day => .ok day.text
  | .moment time => .ok time.text
  | value => value.literal.map ofString

/-- Text of an exception that was raised with some arguments. -/
def argumentsText (arguments : List Value) : Except TextFault String :=
  match arguments with
  | [] => .ok ""
  | [argument] => argument.display.map shownString
  | arguments => (Value.tuple arguments).literal

end Value

end BundleLint
