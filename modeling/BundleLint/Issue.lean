import BundleLint.Number.Integer
import BundleLint.Text.Quoted
import BundleLint.Value

/-!
# Issues

A defect found in a bundle file, and the rules that make one well formed.
-/

namespace BundleLint

/-- How badly a defect affects the bundle. -/
inductive Severity where
  /-- The bundle cannot be used. -/
  | error
  /-- The bundle will likely work worse. -/
  | warning
  /-- A suggestion. -/
  | info
  deriving DecidableEq, Repr

namespace Severity

/-- Name of a severity. -/
def text : Severity → String
  | .error => "error"
  | .warning => "warning"
  | .info => "info"

/-- The severity with a name. -/
def ofText? (name : String) : Option Severity :=
  [error, warning, info].find? fun severity => severity.text == name

/-- Whether a defect of this severity fails the bundle. -/
def isBlocking (severity : Severity) : Bool :=
  severity == .error

end Severity

/-- A defect found in a bundle file. -/
structure Issue where
  /-- How bad it is. -/
  severity : Severity
  /-- Stable name of the kind of defect. -/
  code : String
  /-- What is wrong. -/
  message : String
  /-- Path of the file as text, if it is known. -/
  filePath : Option String
  /-- Line, counted from one, if it is known. -/
  line : Option Nat
  /-- What to do about it, if there is something to say. -/
  fixHint : Option (List CodePoint)
  deriving DecidableEq, Repr

/-- What tells one issue from another. -/
structure Issue.Identity where
  /-- Stable name of the kind of defect. -/
  code : String
  /-- Path of the file as text, if it is known. -/
  filePath : Option String
  /-- Line, counted from one, if it is known. -/
  line : Option Nat
  /-- What is wrong. -/
  message : String
  deriving DecidableEq, Repr

/-- What tells an issue from others. -/
def Issue.identity (issue : Issue) : Issue.Identity :=
  { code := issue.code, filePath := issue.filePath, line := issue.line, message := issue.message }

/-- A severity as it is proposed for an issue. -/
inductive ProposedSeverity where
  /-- By name. -/
  | named (name : String)
  /-- As some value. -/
  | value (value : Value)

/-- The parts of an issue before they are checked. -/
structure IssueDraft where
  /-- How bad it is. -/
  severity : ProposedSeverity
  /-- Stable name of the kind of defect. -/
  code : String
  /-- What is wrong. -/
  message : String
  /-- Path of the file as text, if it is known. -/
  filePath : Option String
  /-- Line, counted from one, if it is known. -/
  line : Option Int
  /-- What to do about it, if there is something to say. -/
  fixHint : Option String

/-- Why parts do not make an issue. -/
inductive IssueFault where
  /-- No severity has this name. -/
  | unknownSeverity (name : String)
  /-- A value is not a severity. -/
  | notSeverity (value : Value)
  /-- The code is empty. -/
  | emptyCode
  /-- The message is empty. -/
  | emptyMessage
  /-- The line is below one. -/
  | line (number : Int)

/-- Wording of parts that do not make an issue. A line with too many digits to be written is told as
such. -/
def IssueFault.message : IssueFault → String
  | .unknownSeverity name => Text.quoteString name ++ " is not a valid Severity"
  | .notSeverity shown => "severity must be a Severity, got " ++ shown.typeName
  | .emptyCode => "Issue code must be non-empty"
  | .emptyMessage => "Issue message must be non-empty"
  | .line number =>
    if Number.isWritable number then "Issue line is 1-indexed, got " ++ toString number
    else Number.unwritableMessage

/-- The severity that is proposed. -/
def ProposedSeverity.resolve : ProposedSeverity → Except IssueFault Severity
  | .named name =>
    match Severity.ofText? name with
    | some severity => .ok severity
    | none => .error (.unknownSeverity name)
  | .value shown => .error (.notSeverity shown)

/-- Checks a line number. -/
def checkLine : Option Int → Except IssueFault (Option Nat)
  | none => .ok none
  | some number => if number < 1 then .error (.line number) else .ok (some number.toNat)

/-- An issue from its parts. -/
def IssueDraft.issue (draft : IssueDraft) : Except IssueFault Issue := do
  let severity ← draft.severity.resolve
  if draft.code.isEmpty then throw .emptyCode
  if draft.message.isEmpty then throw .emptyMessage
  let line ← checkLine draft.line
  .ok
    { severity, code := draft.code, message := draft.message, filePath := draft.filePath, line
      fixHint := draft.fixHint.map Text.ofString }

end BundleLint
