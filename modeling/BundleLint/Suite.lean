import BundleLint.BundleFile
import BundleLint.Check.BuiltIn
import BundleLint.FrontMatter

/-!
# Suites of checks

Two lists of named checks, and their run on one file. The fast checks always run, the slow ones in
comprehensive mode only, each in the order of registration. A file that is missing, cannot be read
or has a wrong front matter ends the run with one issue before any check.
-/

namespace BundleLint

/-- Checks that run together. -/
structure Suite where
  /-- Checks that need the file only. -/
  fast : List NamedCheck
  /-- Checks that may reach for other things. -/
  slow : List NamedCheck

namespace Suite

/-- The suite without checks. -/
def empty : Suite := ⟨[], []⟩

/-- A suite with one more fast check. -/
def addFast (suite : Suite) (check : NamedCheck) : Suite :=
  { suite with fast := suite.fast ++ [check] }

/-- A suite with one more slow check. -/
def addSlow (suite : Suite) (check : NamedCheck) : Suite :=
  { suite with slow := suite.slow ++ [check] }

/-- The built-in checks but for those with the given names. -/
def standard (skipped : List String) : Suite :=
  { fast := (BuiltInCheck.all.filter fun check => !skipped.contains check.name).map (·.named)
    slow := [] }

end Suite

/-- An error that ends a run before any check. -/
def earlyError (path : Path) (code message : String) (line : Option Nat) (hint : String) : Issue :=
  { severity := .error, code, message, filePath := some path.text, line, fixHint := some hint }

/-- The issue of a missing file. -/
def notFoundIssue (path : Path) : Issue :=
  earlyError path "FILE_NOT_FOUND" ("bundle file not found: " ++ path.text) none
    "Check the path: the file does not exist or the path is misspelled"

/-- The issue of a file that cannot be read. -/
def readErrorIssue (path : Path) (fault : ReadFault) : Issue :=
  earlyError path "FILE_READ_ERROR" ("failed to read bundle file: " ++ fault.message) none
    "Check file permissions and that the file is UTF-8 text"

/-- Hint about a wrong front matter. -/
def syntaxHint : String :=
  "Check the front matter YAML: common causes are bad indentation, " ++
    "unquoted special characters (':', '#', '@', '*', '&') and tab characters " ++
    "(YAML indentation must use spaces)"

/-- The issue of a wrong front matter. Places are counted from one. -/
def syntaxIssue (path : Path) (rejection : FrontMatter.Rejection) : Issue :=
  let message := "YAML syntax error: " ++ rejection.message
  match rejection.position with
  | some position =>
    let line := position.line + 1
    let place :=
      " (line " ++ toString line ++ ", column " ++ toString (position.column + 1) ++ ")"
    earlyError path "YAML_SYNTAX" (message ++ place) (some line) syntaxHint
  | none => earlyError path "YAML_SYNTAX" message none syntaxHint

/-- Runs a check: its name is noted first, then its issues are added, or the one that stands for
its failure. An exception without a text breaks off the run. -/
def runCheck (bundle : Bundle) (report : Report) (check : NamedCheck) :
    Except TextFault Report :=
  let noted := report.noteRun check.name
  match check.run bundle with
  | .issues issues => .ok (noted.extend issues)
  | .notList typeName =>
    ((notListException typeName).issue check.name bundle.path).map noted.add
  | .raised exception => (exception.issue check.name bundle.path).map noted.add

/-- Runs checks one after the other. -/
def runChecks (bundle : Bundle) (report : Report) (checks : List NamedCheck) :
    Except TextFault Report :=
  checks.foldlM (runCheck bundle) report

/-- Why a run gives no report. -/
inductive RunFault where
  /-- The reader broke off with a fault that is no defect of the front matter. -/
  | reader (fault : Yaml.Fault)
  /-- A check broke off with an exception that has no text. -/
  | untold (fault : TextFault)
  deriving DecidableEq, Repr

namespace Suite

/-- The report about a bundle: the fast checks run first, the slow ones after them or not at
all. -/
def inspect (suite : Suite) (mode : CheckMode) (bundle : Bundle) : Except TextFault Report := do
  let report := { Report.start bundle.path mode with kind := some (classify bundle.config) }
  let checked ← runChecks bundle report suite.fast
  match mode with
  | .fast => return checked
  | .comprehensive => runChecks bundle checked suite.slow

/-- Runs a suite on a file. A fault of the reader that is no defect of the front matter escapes, and
so does what comes up instead of the text of an exception. -/
def run (suite : Suite) (files : Files) (mode : CheckMode) (path : Path) :
    Except RunFault Report :=
  let report := Report.start path mode
  match openText files path with
  | .absent => .ok (report.add (notFoundIssue path))
  | .unreadable fault => .ok (report.add (readErrorIssue path fault))
  | .text content =>
    match FrontMatter.split content with
    | .error (.rejected rejection) => .ok (report.add (syntaxIssue path rejection))
    | .error (.escaped fault) => .error (.reader fault)
    | .ok parts =>
      (suite.inspect mode { config := parts.config, body := parts.body, path }).mapError .untold

end Suite

end BundleLint
