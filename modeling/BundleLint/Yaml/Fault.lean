import BundleLint.Base64
import BundleLint.Calendar
import BundleLint.Number.Integer
import BundleLint.Text.Quoted
import BundleLint.Text.Utf8

/-!
# Faults of a document

Everything that makes a document unreadable, with its wording. Most faults are complaints: they
name a problem, the place where it is, and often what was being read and where that began. Places
are numbers of characters before them.
-/

namespace BundleLint.Yaml

open Text

/-- What the reader is busy with. -/
inductive Activity where
  /-- Splitting the text into tokens. -/
  | scanning
  /-- Grouping tokens. -/
  | parsing
  /-- Building values. -/
  | constructing
  deriving DecidableEq, Repr

/-- Wording of an activity. -/
def Activity.message : Activity → String
  | .scanning => "scanning"
  | .parsing => "parsing"
  | .constructing => "constructing"

/-- The part of a document that an activity is about. -/
inductive Subject where
  /-- Whatever comes next. -/
  | nextToken
  /-- A key without its own indicator. -/
  | simpleKey
  /-- A directive. -/
  | directive
  /-- A name given to a node. -/
  | anchor
  /-- A reference to a named node. -/
  | reference
  /-- A tag. -/
  | tag
  /-- A literal or folded scalar. -/
  | blockScalar
  /-- A scalar between quotes. -/
  | quotedScalar
  /-- A scalar between double quotes. -/
  | doubleQuotedScalar
  /-- A node. -/
  | node
  /-- A node outside flow collections. -/
  | blockNode
  /-- A node inside a flow collection. -/
  | flowNode
  /-- A sequence laid out by indentation. -/
  | blockCollection
  /-- A mapping laid out by indentation. -/
  | blockMapping
  /-- A sequence between brackets. -/
  | flowSequence
  /-- A mapping between braces. -/
  | flowMapping
  /-- A mapping. -/
  | mapping
  /-- A list of pairs whose order counts. -/
  | orderedMap
  /-- A list of pairs. -/
  | pairs
  deriving DecidableEq, Repr

/-- Wording of a subject. -/
def Subject.message : Subject → String
  | .nextToken => "for the next token"
  | .simpleKey => "a simple key"
  | .directive => "a directive"
  | .anchor => "an anchor"
  | .reference => "an alias"
  | .tag => "a tag"
  | .blockScalar => "a block scalar"
  | .quotedScalar => "a quoted scalar"
  | .doubleQuotedScalar => "a double-quoted scalar"
  | .node => "a node"
  | .blockNode => "a block node"
  | .flowNode => "a flow node"
  | .blockCollection => "a block collection"
  | .blockMapping => "a block mapping"
  | .flowSequence => "a flow sequence"
  | .flowMapping => "a flow mapping"
  | .mapping => "a mapping"
  | .orderedMap => "an ordered map"
  | .pairs => "pairs"

/-- What a problem came up in. -/
inductive Context where
  /-- An activity on a subject. -/
  | during (activity : Activity) (subject : Subject)
  /-- The first of two nodes with one name. -/
  | firstAnchor (name : String)
  /-- The only document that is expected. -/
  | singleDocument
  deriving DecidableEq, Repr

/-- Wording of a context. -/
def Context.message : Context → String
  | .during activity subject => "while " ++ activity.message ++ " " ++ subject.message
  | .firstAnchor name => "found duplicate anchor " ++ quoteString name ++ "; first occurrence"
  | .singleDocument => "expected a single document in the stream"

/-- The kind of a node. -/
inductive NodeKind where
  /-- Text. -/
  | scalar
  /-- A sequence of nodes. -/
  | sequence
  /-- A mapping from nodes to nodes. -/
  | mapping
  deriving DecidableEq, Repr

/-- Wording of a kind. -/
def NodeKind.message : NodeKind → String
  | .scalar => "scalar"
  | .sequence => "sequence"
  | .mapping => "mapping"

/-- What is wrong. -/
inductive Problem where
  /-- No token starts with this character. -/
  | cannotStart (found : Char)
  /-- A key without its own indicator is not followed by a colon. -/
  | missingColon
  /-- These parts of a block collection cannot stand here. -/
  | misplaced (parts : String)
  /-- Another character than this one was needed. -/
  | expectedCharacter (expected : String) (found : Char)
  /-- The indentation of a block scalar is given as zero. -/
  | zeroIndentation
  /-- Escaped bytes of a tag are not UTF-8. -/
  | malformedEscape (malformed : Utf8.Malformed)
  /-- There is no such escape. -/
  | unknownEscape (found : Char)
  /-- The text ends inside a quoted scalar. -/
  | unexpectedEnd
  /-- A document mark stands inside a quoted scalar. -/
  | unexpectedSeparator
  /-- Another token than this one was needed. -/
  | expectedToken (expected : String) (found : String)
  /-- A flow collection goes on with another token than these. -/
  | expectedFlow (expected : String) (found : String)
  /-- The version is declared twice. -/
  | duplicateVersion
  /-- The declared version is not the supported one. -/
  | incompatibleVersion
  /-- A tag handle is declared twice. -/
  | duplicateHandle (handle : String)
  /-- A tag handle is not declared. -/
  | undefinedHandle (handle : String)
  /-- No node has this name. -/
  | undefinedAlias (name : String)
  /-- A node has the name of an earlier node. -/
  | secondAnchor
  /-- A second document follows. -/
  | anotherDocument
  /-- No value can be built for this tag. -/
  | unknownTag (tag : String)
  /-- A node of another kind was needed. -/
  | expectedNode (expected : NodeKind) (found : NodeKind)
  /-- A key is a container. -/
  | unhashableKey
  /-- What is merged into a mapping is neither a mapping nor a list of mappings. -/
  | unmergeable (found : NodeKind)
  /-- An item of what is merged into a mapping is not a mapping. -/
  | unmergeableItem (found : NodeKind)
  /-- A list of pairs is not a sequence. -/
  | pairsNotSequence (found : NodeKind)
  /-- An item of a list of pairs is not a mapping. -/
  | pairNotMapping (found : NodeKind)
  /-- An item of a list of pairs has not exactly one key. -/
  | pairSize (size : Nat)
  /-- Base64 text holds characters beyond ASCII. -/
  | notAscii (first : CodePoint) (start : Nat) (count : Nat)
  /-- Base64 text does not decode. -/
  | base64 (fault : Base64.Fault)
  deriving DecidableEq, Repr

/-- Wording of characters that ASCII cannot encode. -/
def notAsciiMessage (first : CodePoint) (start count : Nat) : String :=
  let place :=
    if count == 1 then
      "character " ++
        String.ofList (singleQuote :: codeEscape first.code ++ [singleQuote]) ++
          " in position " ++ toString start
    else "characters in position " ++ toString start ++ "-" ++ toString (start + count - 1)
  "failed to convert base64 data into ascii: 'ascii' codec can't encode " ++ place ++
    ": ordinal not in range(128)"

/-- Wording of a problem. -/
def Problem.message : Problem → String
  | .cannotStart found => "found character " ++ quoteChar found ++ " that cannot start any token"
  | .missingColon => "could not find expected ':'"
  | .misplaced parts => parts ++ " are not allowed here"
  | .expectedCharacter expected found =>
    "expected " ++ expected ++ ", but found " ++ quoteChar found
  | .zeroIndentation => "expected indentation indicator in the range 1-9, but found 0"
  | .malformedEscape malformed => malformed.message
  | .unknownEscape found => "found unknown escape character " ++ quoteChar found
  | .unexpectedEnd => "found unexpected end of stream"
  | .unexpectedSeparator => "found unexpected document separator"
  | .expectedToken expected found => "expected " ++ expected ++ ", but found " ++ quoteString found
  | .expectedFlow expected found => "expected " ++ expected ++ ", but got " ++ quoteString found
  | .duplicateVersion => "found duplicate YAML directive"
  | .incompatibleVersion => "found incompatible YAML document (version 1.* is required)"
  | .duplicateHandle handle => "duplicate tag handle " ++ quoteString handle
  | .undefinedHandle handle => "found undefined tag handle " ++ quoteString handle
  | .undefinedAlias name => "found undefined alias " ++ quoteString name
  | .secondAnchor => "second occurrence"
  | .anotherDocument => "but found another document"
  | .unknownTag tag => "could not determine a constructor for the tag " ++ quoteString tag
  | .expectedNode expected found =>
    "expected a " ++ expected.message ++ " node, but found " ++ found.message
  | .unhashableKey => "found unhashable key"
  | .unmergeable found =>
    "expected a mapping or list of mappings for merging, but found " ++ found.message
  | .unmergeableItem found => "expected a mapping for merging, but found " ++ found.message
  | .pairsNotSequence found => "expected a sequence, but found " ++ found.message
  | .pairNotMapping found => "expected a mapping of length 1, but found " ++ found.message
  | .pairSize size => "expected a single mapping item, but found " ++ toString size ++ " items"
  | .notAscii first start count => notAsciiMessage first start count
  | .base64 fault => "failed to decode base64 data: " ++ fault.message

/-- A problem at a place. -/
structure Complaint where
  /-- What the problem came up in, if that is said. -/
  context : Option Context
  /-- Where that began, if it is told. -/
  contextStart : Option Nat
  /-- What is wrong. -/
  problem : Problem
  /-- Where it is wrong. -/
  start : Nat
  deriving DecidableEq, Repr

/-- Why text does not give the value that its tag promises. -/
inductive ValueFault where
  /-- The text is not an integer. -/
  | integer (fault : Number.IntegerFault)
  /-- The text is not a floating-point number. -/
  | real (literal : List CodePoint)
  /-- A factor is beyond the greatest double. -/
  | realRange
  /-- The parts do not make a date or a time. -/
  | calendar (fault : CalendarFault)
  /-- There is no character with this escape. -/
  | characterRange
  /-- An escape is too large to be tried as a character. -/
  | characterSize
  /-- A date is not given as text. -/
  | notText
  deriving DecidableEq, Repr

/-- Wording of a value that cannot be built. -/
def ValueFault.message : ValueFault → String
  | .integer fault => fault.message
  | .real literal => "could not convert string to float: " ++ quoteString literal
  | .realRange => "int too large to convert to float"
  | .calendar fault => fault.message
  | .characterRange => "chr() arg not in range(0x110000)"
  | .characterSize => "Python int too large to convert to C int"
  | .notText => "expected string or bytes-like object, got 'list'"

/-- Why a document cannot be read. -/
inductive Fault where
  /-- A problem at a place. -/
  | complaint (complaint : Complaint)
  /-- A character that no document may hold, after this many others. -/
  | unprintable (found : Char) (start : Nat)
  /-- The bytes are not UTF-8. -/
  | undecodable (malformed : Utf8.Malformed)
  /-- Text does not give the value that its tag promises. -/
  | value (fault : ValueFault)
  /-- A word stands for no truth value; it is given in lower case. -/
  | unknownWord (word : List CodePoint)
  /-- A number has no digits. -/
  | emptyNumber
  /-- Text does not have the form of a date or a time. -/
  | notTimestamp
  /-- Collections are nested beyond the limit. -/
  | tooDeep
  deriving DecidableEq, Repr

/-- Wording of a character that no document may hold, in a document with a name. -/
def unprintableMessage (document : String) (found : Char) (start : Nat) : String :=
  "unacceptable character #x" ++ String.ofList (hex 4 found.toNat) ++
    ": special characters are not allowed\n  in \x22" ++ document ++ "\x22, position " ++
      toString start

/-- A problem without a context. -/
def Fault.plain (problem : Problem) (start : Nat) : Fault :=
  .complaint { context := none, contextStart := none, problem, start }

/-- A problem during an activity that began at a place. -/
def Fault.during (activity : Activity) (subject : Subject) (began : Nat) (problem : Problem)
    (start : Nat) : Fault :=
  .complaint
    { context := some (.during activity subject), contextStart := some began, problem, start }

end BundleLint.Yaml
