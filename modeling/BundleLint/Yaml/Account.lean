import BundleLint.Text.Line
import BundleLint.Value.Text
import BundleLint.Yaml.Fault

/-!
# Accounts of errors

What an error of a reader says about itself, and its description on one line: the problem with its
context if there is a problem, else the first line of all that it says, else its name. The values
that an error is made of need not be texts, and some of them have none.
-/

namespace BundleLint.Yaml

/-- What an error says about itself. Values that are not there are absent ones. -/
structure Account where
  /-- Name of the kind of error. -/
  name : String
  /-- The context. -/
  context : Value
  /-- The problem. -/
  problem : Value
  /-- All that the error says, if it can be told. -/
  text : Except TextFault String
  /-- The name stands on one line. -/
  name_oneLine : (name.toList.all fun c => !Text.isLineEnd c) = true := by decide

namespace Account

/-- An error made of some values. -/
def plain (arguments : List Value) : Account :=
  { name := "YAMLError", context := .null, problem := .null
    text := Value.argumentsText arguments }

/-- Texts from an index on, which must be texts. -/
def textsFrom (index : Nat) : List Value → Except TextFault (List String)
  | [] => .ok []
  | part :: parts =>
    match part.text? with
    | none => .error (.part index part.fullTypeName)
    | some text => (textsFrom (index + 1) parts).map (Text.shownString text :: ·)

/-- An error with a context, a problem and a note, and without places. -/
def marked (context problem note : Value) : Account :=
  { name := "MarkedYAMLError", context, problem
    text :=
      (textsFrom 0 ([context, problem, note].filter fun part => !part.isNull)).map
        ("\n".intercalate ·) }

/-- The first line of a text, which must have one. -/
def firstLine (text : String) : Except TextFault String :=
  match Text.lines text.toList with
  | [] => .error (.raised "IndexError" "list index out of range")
  | line :: _ => .ok (String.ofList (Text.lineBody line))

/-- The text of a value on its own. -/
def shown (value : Value) : Except TextFault String :=
  value.display.map Text.shownString

/-- An error on one line. -/
def describe (account : Account) : Except TextFault String := do
  if account.problem.isTruthy then
    if account.context.isTruthy then
      return (← shown account.context) ++ ": " ++ (← shown account.problem)
    else shown account.problem
  else
    let said ← account.text
    if said.isEmpty then return account.name else firstLine said

/-- What a complaint says about itself, without its places. -/
def ofComplaint (complaint : Complaint) : Account :=
  let part := fun (text : String) => Value.text (Text.ofString text)
  .marked ((complaint.context.map fun context => part context.message).getD .null)
    (part complaint.problem.message) .null

end Account

/-- A complaint on one line: its problem behind its context. -/
def Complaint.description (complaint : Complaint) : String :=
  match complaint.context with
  | none => complaint.problem.message
  | some context => context.message ++ ": " ++ complaint.problem.message

end BundleLint.Yaml
