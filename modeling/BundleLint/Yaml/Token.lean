import BundleLint.Text.CodePoint

/-!
# Tokens

The tokens of a document, each with the places where it starts and stops.
-/

namespace BundleLint.Yaml

/-- A tag as it is written: a declared handle with a suffix, or a whole tag. -/
structure WrittenTag where
  /-- The handle, if the tag has one. -/
  handle : Option (List Char)
  /-- What follows the handle, or the whole tag. -/
  suffix : List Char
  deriving DecidableEq, Repr

/-- A directive. -/
inductive Directive where
  /-- The version of the language. -/
  | version (major minor : Int)
  /-- The meaning of a tag handle. -/
  | tagHandle (handle leading : List Char)
  /-- A directive without effect. -/
  | unknown
  deriving DecidableEq, Repr

/-- A token. -/
inductive Token where
  /-- End of the text. -/
  | streamEnd
  /-- A directive. -/
  | directive (directive : Directive)
  /-- Mark before a document. -/
  | documentStart
  /-- Mark after a document. -/
  | documentEnd
  /-- Start of a sequence that is laid out by indentation. -/
  | blockSequenceStart
  /-- Start of a mapping that is laid out by indentation. -/
  | blockMappingStart
  /-- End of a collection that is laid out by indentation. -/
  | blockEnd
  /-- Opening bracket. -/
  | flowSequenceStart
  /-- Closing bracket. -/
  | flowSequenceEnd
  /-- Opening brace. -/
  | flowMappingStart
  /-- Closing brace. -/
  | flowMappingEnd
  /-- Indicator of a key. -/
  | key
  /-- Indicator of the value of a key. -/
  | value
  /-- Indicator of an item of a block sequence. -/
  | blockEntry
  /-- Comma between items of a flow collection. -/
  | flowEntry
  /-- Reference to a named node. -/
  | reference (name : List Char)
  /-- Name of a node. -/
  | anchor (name : List Char)
  /-- Tag of a node. -/
  | tag (tag : WrittenTag)
  /-- Text, and whether it is written without any indicator. -/
  | scalar (text : List CodePoint) ( isPlain : Bool)
  deriving DecidableEq, Repr

/-- Name of a token in messages. -/
def Token.name : Token → String
  | .streamEnd => "<stream end>"
  | .directive _ => "<directive>"
  | .documentStart => "<document start>"
  | .documentEnd => "<document end>"
  | .blockSequenceStart => "<block sequence start>"
  | .blockMappingStart => "<block mapping start>"
  | .blockEnd => "<block end>"
  | .flowSequenceStart => "["
  | .flowSequenceEnd => "]"
  | .flowMappingStart => "\x7b"
  | .flowMappingEnd => "\x7d"
  | .key => "?"
  | .value => ":"
  | .blockEntry => "-"
  | .flowEntry => ","
  | .reference _ => "<alias>"
  | .anchor _ => "<anchor>"
  | .tag _ => "<tag>"
  | .scalar .. => "<scalar>"

/-- A token in its place. -/
structure PlacedToken where
  /-- The token. -/
  token : Token
  /-- Number of characters before it. -/
  start : Nat
  /-- Number of characters up to its end. -/
  stop : Nat
  deriving DecidableEq, Repr

end BundleLint.Yaml
