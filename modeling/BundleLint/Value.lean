import BundleLint.Calendar
import BundleLint.Number.Shortest
import BundleLint.Text.CodePoint

/-!
# Values

The values that a data file can hold. Values are trees; a container that contains itself is given a
label, and the place where it comes back refers to that label. A label is present exactly on the
containers that lie on such a cycle, so a part without a label holds no reference to a label
outside it, tuples apart.
-/

namespace BundleLint

/-- A value of a data file. -/
inductive Value where
  /-- The absent value. -/
  | null
  /-- A truth value. -/
  | bool (b : Bool)
  /-- An integer of any size. -/
  | int (n : Int)
  /-- A double. -/
  | float (x : Float)
  /-- Text. -/
  | text (s : List CodePoint)
  /-- Bytes. -/
  | bytes (content : List UInt8)
  /-- A calendar date. -/
  | date (day : Date)
  /-- A date with a time. -/
  | moment (time : Moment)
  /-- A list, with its label if it contains itself. -/
  | list (label : Option Nat) (items : List Value)
  /-- A mapping in the order of its keys, with its label if it contains itself. -/
  | map (label : Option Nat) (entries : List (Value × Value))
  /-- A set, in the order in which its elements came. -/
  | set (elements : List Value)
  /-- A fixed group of values. -/
  | tuple (items : List Value)
  /-- The enclosing list or mapping with this label. -/
  | back (label : Nat) ( isMap : Bool)
  deriving Inhabited, Repr

/-- A mapping with distinct keys. -/
structure Mapping where
  /-- Label, if the mapping contains itself. -/
  label : Option Nat
  /-- Keys with their values, in order. -/
  entries : List (Value × Value)
  deriving Inhabited, Repr

namespace Mapping

/-- The mapping without keys. -/
def empty : Mapping := ⟨none, []⟩

/-- A mapping as a value. -/
def toValue (mapping : Mapping) : Value :=
  .map mapping.label mapping.entries

end Mapping

namespace Value

mutual

/-- Puts a container in the places that refer to its label. -/
def close (label : Nat) (whole : Value) : Value → Value
  | .back reference isMap => if reference == label then whole else .back reference isMap
  | .list (some own) items => .list (some own) (closeAll label whole items)
  | .map (some own) entries => .map (some own) (closeEntries label whole entries)
  | .tuple items => .tuple (closeAll label whole items)
  | value => value

/-- Puts a container in the places of several values that refer to its label. -/
def closeAll (label : Nat) (whole : Value) : List Value → List Value
  | [] => []
  | value :: rest => close label whole value :: closeAll label whole rest

/-- Puts a container in the places of keys and values that refer to its label. -/
def closeEntries (label : Nat) (whole : Value) : List (Value × Value) → List (Value × Value)
  | [] => []
  | (key, value) :: rest =>
    (close label whole key, close label whole value) :: closeEntries label whole rest

end

/-- A part of a container as a value of its own. -/
def part (label : Option Nat) (whole value : Value) : Value :=
  match label with
  | none => value
  | some label => close label whole value

/-- The items of a list as values of their own. -/
def listItems? : Value → Option (List Value)
  | .list label items => some (items.map (part label (.list label items)))
  | _ => none

/-- A mapping, if the value is one. -/
def mapping? : Value → Option Mapping
  | .map label entries => some ⟨label, entries⟩
  | _ => none

/-- Text, if the value is text. -/
def text? : Value → Option (List CodePoint)
  | .text s => some s
  | _ => none

/-- The integer that a value counts as; truth values count as zero and one. -/
def integer? : Value → Option Int
  | .bool b => some (if b then 1 else 0)
  | .int n => some n
  | _ => none

/-- Whether a value is the absent one. -/
def isNull : Value → Bool
  | .null => true
  | _ => false

/-- Whether a value counts as true: it is neither absent nor zero nor empty. -/
def isTruthy : Value → Bool
  | .null => false
  | .bool b => b
  | .int n => n != 0
  | .float x => x != 0.0
  | .text s => !s.isEmpty
  | .bytes content => !content.isEmpty
  | .list _ items => !items.isEmpty
  | .map _ entries => !entries.isEmpty
  | .set elements => !elements.isEmpty
  | .tuple items => !items.isEmpty
  | .date _ | .moment _ | .back .. => true

/-- Name of a value's type. -/
def typeName : Value → String
  | .null => "NoneType"
  | .bool _ => "bool"
  | .int _ => "int"
  | .float _ => "float"
  | .text _ => "str"
  | .bytes _ => "bytes"
  | .date _ => "date"
  | .moment _ => "datetime"
  | .list .. => "list"
  | .map .. => "dict"
  | .set _ => "set"
  | .tuple _ => "tuple"
  | .back _ isMap => if isMap then "dict" else "list"

/-- Name of a value's type in full, which says where the types of dates belong. -/
def fullTypeName : Value → String
  | .date _ => "datetime.date"
  | .moment _ => "datetime.datetime"
  | value => value.typeName

/-- Name of a value's type for the author of a file. -/
def authorName : Value → String
  | .null => "null"
  | .bool _ => "boolean"
  | .int _ => "integer"
  | .float _ => "number"
  | .text _ => "string"
  | .bytes _ => "bytes"
  | .date _ => "date"
  | .moment _ => "timestamp"
  | .list .. => "list"
  | .map .. => "mapping"
  | .set _ => "set"
  | .tuple _ => "tuple"
  | .back _ isMap => if isMap then "mapping" else "list"

end Value

/-- A finite double and an integer, both times the power of two that makes the double an integer. -/
def commonScale (x : Float) (n : Int) : Int × Int :=
  let dyadic := Number.Dyadic.ofFloat x
  let magnitude : Int := dyadic.mantissa * Nat.pow 2 dyadic.exponent.toNat
  (if x < 0.0 then -magnitude else magnitude, n * Nat.pow 2 (-dyadic.exponent).toNat)

/-- Whether a double is exactly an integer. -/
def isExactly (x : Float) (n : Int) : Bool :=
  let (left, right) := commonScale x n
  x.isFinite && left == right

/-- Whether a double is less than an integer. -/
def isBelow (x : Float) (n : Int) : Bool :=
  let (left, right) := commonScale x n
  if x.isFinite then left < right else x < 0.0

/-- Whether a double is greater than an integer. -/
def isAbove (x : Float) (n : Int) : Bool :=
  let (left, right) := commonScale x n
  if x.isFinite then right < left else 0.0 < x

/-- Whether a value is a number that is less than another one, exactly and whatever their types. -/
def isLess (left right : Value) : Bool :=
  match left.integer?, right.integer? with
  | some m, some n => m < n
  | some m, none =>
    match right with
    | .float y => isAbove y m
    | _ => false
  | none, some n =>
    match left with
    | .float x => isBelow x n
    | _ => false
  | none, none =>
    match left, right with
    | .float x, .float y => x < y
    | _, _ => false

/-- Whether two values are the same key. Numbers are compared by value whatever their type. -/
def sameKey (left right : Value) : Bool :=
  match left.integer?, right.integer? with
  | some m, some n => m == n
  | some m, none =>
    match right with
    | .float x => isExactly x m
    | _ => false
  | none, some n =>
    match left with
    | .float x => isExactly x n
    | _ => false
  | none, none =>
    match left, right with
    | .null, .null => true
    | .float x, .float y => x == y
    | .text s, .text t => s == t
    | .bytes b, .bytes c => b == c
    | .date d, .date e => d == e
    | .moment m, .moment n => m.same n
    | _, _ => false

/-- Sets the value of a key. A key that is there keeps its place and its first form. -/
def insertEntry (key value : Value) : List (Value × Value) → List (Value × Value)
  | [] => [(key, value)]
  | (held, old) :: rest =>
    if sameKey held key then (held, value) :: rest else (held, old) :: insertEntry key value rest

namespace Mapping

/-- Value of a text key. -/
def get? (mapping : Mapping) (key : String) : Option Value :=
  (mapping.entries.find? fun entry => sameKey entry.1 (.text key)).map fun entry =>
    Value.part mapping.label mapping.toValue entry.2

/-- Whether a text is among the keys. -/
def contains (mapping : Mapping) (key : String) : Bool :=
  mapping.entries.any fun entry => sameKey entry.1 (.text key)

/-- Number of keys. -/
def size (mapping : Mapping) : Nat :=
  mapping.entries.length

end Mapping

end BundleLint
