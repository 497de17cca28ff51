import BundleLint.Text.Radix
import BundleLint.Yaml.Timestamp

/-!
# Tags

The types of nodes, and the rules that find the type of a plain scalar from its text. Only the
types that the first character allows are tried, in a fixed order.
-/

namespace BundleLint.Yaml

/-- The type of a node. -/
inductive Tag where
  /-- The absent value. -/
  | null
  /-- A truth value. -/
  | bool
  /-- An integer. -/
  | int
  /-- A floating-point number. -/
  | float
  /-- A date or a time. -/
  | timestamp
  /-- Text. -/
  | text
  /-- Bytes in base64. -/
  | binary
  /-- A sequence. -/
  | sequence
  /-- A mapping. -/
  | mapping
  /-- A set. -/
  | set
  /-- A list of pairs whose order counts. -/
  | orderedMap
  /-- A list of pairs. -/
  | pairs
  /-- A key whose value is merged into the mapping. -/
  | merge
  /-- A key whose value stands for the mapping. -/
  | standIn
  /-- A type without values. -/
  | other (address : List Char)
  deriving DecidableEq, Repr

/-- What the addresses of the known types start with. -/
def tagDomain : List Char :=
  "tag:yaml.org,2002:".toList

/-- Last parts of the addresses of the known types. -/
def knownTags : List (Tag × String) :=
  [(.null, "null"), (.bool, "bool"), (.int, "int"), (.float, "float"), (.timestamp, "timestamp"),
    (.text, "str"), (.binary, "binary"), (.sequence, "seq"), (.mapping, "map"), (.set, "set"),
    (.orderedMap, "omap"), (.pairs, "pairs"), (.merge, "merge"), (.standIn, "value")]

/-- The type with an address. -/
def Tag.ofAddress (address : List Char) : Tag :=
  match knownTags.find? fun (_, name) => tagDomain ++ name.toList == address with
  | some (tag, _) => tag
  | none => .other address

/-- The address of a type. -/
def Tag.address (tag : Tag) : List Char :=
  match tag with
  | .other address => address
  | tag =>
    match knownTags.find? fun (known, _) => known == tag with
    | some (_, name) => tagDomain ++ name.toList
    | none => []

private def isPlainDigit (c : Char) : Bool :=
  '0' ≤ c && c ≤ '9'

private def isLooseDigit (c : Char) : Bool :=
  isPlainDigit c || c == '_'

/-- A text without a leading sign. -/
def dropSign : List Char → List Char
  | c :: rest => if c == '+' || c == '-' then rest else c :: rest
  | [] => []

/-- Words for truth values. -/
def boolWords : List (List Char) :=
  ["yes", "Yes", "YES", "no", "No", "NO", "true", "True", "TRUE", "false", "False", "FALSE",
    "on", "On", "ON", "off", "Off", "OFF"].map String.toList

/-- Words for the absent value. -/
def nullWords : List (List Char) :=
  ["~", "null", "Null", "NULL", ""].map String.toList

/-- Names of infinity, after a sign. -/
def infinityWords : List (List Char) :=
  [".inf", ".Inf", ".INF"].map String.toList

/-- Names of the value that is no number. -/
def notANumberWords : List (List Char) :=
  [".nan", ".NaN", ".NAN"].map String.toList

/-- What follows the parts of a number to the base sixty after its first one; nothing if there is
no such part. -/
def afterSixties? : List Char → Option (List Char)
  | ':' :: first :: second :: rest =>
    if isPlainDigit first && isPlainDigit second then
      if first ≤ '5' then
        match rest with
        | ':' :: _ => afterSixties? rest
        | _ => some rest
      else none
    else if isPlainDigit first then
      if second == ':' then afterSixties? (second :: rest) else some (second :: rest)
    else none
  | [':', first] => if isPlainDigit first then some [] else none
  | _ => none

/-- Whether a text is empty or the exponent of a number, with its sign. -/
def isExponent : List Char → Bool
  | [] => true
  | mark :: sign :: digits =>
    (mark == 'e' || mark == 'E') && (sign == '+' || sign == '-') && !digits.isEmpty &&
      digits.all isPlainDigit
  | _ => false

/-- Whether a text is a point with digits after it, of which there are at least some, and perhaps
an exponent. -/
def isFraction (least : Nat) : List Char → Bool
  | '.' :: rest =>
    least ≤ (rest.takeWhile isLooseDigit).length &&
      (least == 0 || !(rest.headD '_' == '_')) && isExponent (rest.dropWhile isLooseDigit)
  | _ => false

/-- Whether a text is a floating-point number. -/
def isRealWord (text : List Char) : Bool :=
  let unsigned := dropSign text
  let whole := unsigned.takeWhile isLooseDigit
  let rest := unsigned.dropWhile isLooseDigit
  let startsWithDigit := isPlainDigit (unsigned.headD '_')
  (startsWithDigit && !whole.isEmpty && isFraction 0 rest) || isFraction 1 text ||
    (startsWithDigit &&
      match afterSixties? rest with
      | some ('.' :: digits) => digits.all isLooseDigit
      | _ => false) ||
    infinityWords.contains unsigned || notANumberWords.contains text

/-- Whether a text is an integer without a sign. -/
def isUnsignedWord : List Char → Bool
  | '0' :: 'b' :: rest => !rest.isEmpty && rest.all fun c => c == '0' || c == '1' || c == '_'
  | '0' :: 'x' :: rest => !rest.isEmpty && rest.all fun c => Text.isHexDigit c || c == '_'
  | '0' :: rest => rest.all fun c => ('0' ≤ c && c ≤ '7') || c == '_'
  | c :: rest =>
    isPlainDigit c &&
      (rest.all isLooseDigit || afterSixties? (rest.dropWhile isLooseDigit) == some [])
  | [] => false

/-- Whether a text is an integer. -/
def isIntegerWord (text : List Char) : Bool :=
  isUnsignedWord (dropSign text)

/-- A rule that finds the type of plain scalars. -/
structure TagRule where
  /-- The type that is found. -/
  tag : Tag
  /-- Whether the type can start with a character. -/
  starts : Char → Bool
  /-- Whether a text has the type. -/
  holds : List Char → Bool

/-- The rules in the order in which they are tried. -/
def tagRules : List TagRule :=
  [{ tag := .bool, starts := "yYnNtTfFoO".toList.contains, holds := boolWords.contains },
    { tag := .float, starts := "-+0123456789.".toList.contains, holds := isRealWord },
    { tag := .int, starts := "-+0123456789".toList.contains, holds := isIntegerWord },
    { tag := .merge, starts := (· == '<'), holds := (· == ['<', '<']) },
    { tag := .null, starts := "~nN".toList.contains, holds := nullWords.contains },
    { tag := .timestamp, starts := isPlainDigit, holds := isTimestamp },
    { tag := .standIn, starts := (· == '='), holds := (· == ['=']) },
    { tag := .other (tagDomain ++ "yaml".toList), starts := "!&*".toList.contains
      holds := fun text => text == ['!'] || text == ['&'] || text == ['*'] }]

/-- The type of a plain scalar. A final line feed does not count. Text with surrogates is under no
rule. -/
def plainTag (text : List CodePoint) : Tag :=
  match Text.characters? text with
  | some [] => .null
  | some (first :: rest) =>
    let shown := beforeFinalFeed (first :: rest)
    match tagRules.find? fun rule => rule.starts first && rule.holds shown with
    | some rule => rule.tag
    | none => .text
  | none => .text

end BundleLint.Yaml
