import BundleLint.Issue
import BundleLint.Path
import BundleLint.Value.Text

/-!
# Checks

A check looks at a bundle and gives a list of issues, or fails to: it may give something else or
break off with an exception. Either failure is itself an issue, which names the check and tells the
exception. Telling it fails if the exception has no text.
-/

namespace BundleLint

/-- What a check looks at. -/
structure Bundle where
  /-- The settings of the front matter. -/
  config : Mapping
  /-- The text after the front matter. -/
  body : List Char
  /-- The file. -/
  path : Path

/-- An exception: its kind and what it says. -/
structure Exception where
  /-- Kind. -/
  kind : String
  /-- What it says, if it can be told. -/
  text : Except TextFault String

/-- What a check comes to. -/
inductive Outcome where
  /-- A list of issues. -/
  | issues (issues : List Issue)
  /-- Something else than a list of issues, of the named type. -/
  | notList (typeName : String)
  /-- An exception. -/
  | raised (exception : Exception)

/-- A check. -/
abbrev Check := Bundle → Outcome

/-- A check with the name under which it is registered. -/
structure NamedCheck where
  /-- Name. -/
  name : String
  /-- The check. -/
  run : Check

/-- Hint for an exception of a check. -/
def internalErrorHint : String :=
  "This is a defect in the check, not necessarily in the bundle; " ++
    "report it to the check's maintainers"

/-- The issue that stands for an exception of a check, from its kind and its text. -/
def internalError (name : String) (path : Path) (kind text : String) : Issue :=
  { severity := .error
    code := "CHECK_INTERNAL_ERROR"
    message := "check '" ++ name ++ "' raised " ++ kind ++ ": " ++ text
    filePath := some path.text
    line := none
    fixHint := some internalErrorHint }

/-- The issue that stands for an exception of a check, if the exception has a text. -/
def Exception.issue (name : String) (path : Path) (exception : Exception) :
    Except TextFault Issue :=
  exception.text.map (internalError name path exception.kind)

/-- The exception that stands for something else than a list. -/
def notListException (typeName : String) : Exception :=
  { kind := "TypeError", text := .ok ("check returned " ++ typeName ++ ", expected list") }

end BundleLint
