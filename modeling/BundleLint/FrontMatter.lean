import BundleLint.Text.Line
import BundleLint.Yaml.Account
import BundleLint.Yaml.Load
import BundleLint.Yaml.Source

/-!
# Front matter

A bundle file begins with a settings block between two lines of three hyphens, and the rest is its
body. A file without the first such line has no settings and is all body.
-/

namespace BundleLint.FrontMatter

open Text (lines lineBody trimRight)
open Yaml (Complaint Fault Position ValueFault)

/-- Whether a line, with its end, is three hyphens with nothing but blanks after them. -/
def isDelimiter (line : List Char) : Bool :=
  trimRight line == ['-', '-', '-']

/-- Text without a byte-order mark at its start. -/
def dropMark : List Char → List Char
  | c :: rest => if c == Yaml.byteOrderMark then rest else c :: rest
  | [] => []

/-- The parts of a file. -/
inductive Layout where
  /-- There is no front matter. -/
  | bodyOnly (body : List Char)
  /-- The front matter has no end. -/
  | unterminated
  /-- The front matter without its delimiters, and the body. -/
  | block (content body : List Char)
  deriving DecidableEq, Repr

/-- Takes a text apart. -/
def layout (text : List Char) : Layout :=
  let shown := dropMark text
  match lines shown with
  | [] => .bodyOnly shown
  | opening :: rest =>
    if !isDelimiter opening then .bodyOnly shown
    else
      match rest.dropWhile fun line => !isDelimiter line with
      | [] => .unterminated
      | _ :: body => .block (rest.takeWhile fun line => !isDelimiter line).flatten body.flatten

/-- What is wrong with a front matter. -/
inductive Defect where
  /-- It has no end. -/
  | unterminated
  /-- It is not a document. -/
  | complaint (complaint : Complaint)
  /-- A value in it cannot be built. -/
  | invalidValue (fault : ValueFault)
  /-- Collections are nested beyond the limit. -/
  | tooDeep
  /-- It holds something else than a mapping. -/
  | notMapping (value : Value)

/-- A front matter that is wrong. -/
structure Rejection where
  /-- What is wrong. -/
  defect : Defect
  /-- Where it is wrong in the file, if that is known; both counts start from zero. -/
  position : Option Position

/-- Wording of a defect. -/
def Defect.message : Defect → String
  | .unterminated => "unterminated front matter: opening '---' has no closing '---'"
  | .complaint found => found.description
  | .invalidValue fault => "invalid value: " ++ fault.message
  | .tooDeep => "front matter is nested too deeply to parse"
  | .notMapping value => "front matter must be a mapping (got " ++ value.typeName ++ ")"

/-- Wording of what is wrong. -/
def Rejection.message (rejection : Rejection) : String :=
  rejection.defect.message

/-- Why a file cannot be split. -/
inductive Failure where
  /-- The front matter is wrong. -/
  | rejected (rejection : Rejection)
  /-- The reader broke off with a fault that is not reported as a wrong front matter. -/
  | escaped (fault : Fault)

/-- A place in the file, from the number of characters before it in the front matter. -/
def filePosition (content : List Char) (offset : Nat) : Position :=
  let position := Yaml.positionAfter content offset
  { position with line := position.line + 1 }

/-- What a fault of the reader means for the file. -/
def failureOf (content : List Char) : Fault → Failure
  | .complaint complaint =>
    .rejected
      { defect := .complaint complaint, position := some (filePosition content complaint.start) }
  | .value fault => .rejected { defect := .invalidValue fault, position := none }
  | .tooDeep => .rejected { defect := .tooDeep, position := none }
  | fault => .escaped fault

/-- The settings in a front matter. -/
def settings (content : List Char) : Except Failure Mapping := do
  let source ← (Yaml.Source.ofText content).mapError .escaped
  match ← (Yaml.load source).mapError (failureOf content) with
  | none => return .empty
  | some document =>
    match document.value with
    | .null => return .empty
    | .map label entries => return { label, entries }
    | value =>
      throw <| .rejected
        { defect := .notMapping value, position := some (filePosition content document.start) }

/-- A file taken apart. -/
structure Parts where
  /-- The settings. -/
  config : Mapping
  /-- The text after the front matter. -/
  body : List Char

/-- Splits the text of a file into settings and body. -/
def split (text : List Char) : Except Failure Parts :=
  match layout text with
  | .bodyOnly body => .ok { config := .empty, body }
  | .unterminated =>
    .error (.rejected { defect := .unterminated, position := some { line := 0, column := 0 } })
  | .block content body => do
    let config ← settings content
    return { config, body }

end BundleLint.FrontMatter
