import BundleLint.Issue
import BundleLint.Path

/-!
# Reports

The issues found in one bundle file, together with the checks that ran.
-/

namespace BundleLint

/-- Which of the registered checks a run executes. -/
inductive CheckMode where
  /-- The checks that need the file only. -/
  | fast
  /-- All checks. -/
  | comprehensive
  deriving DecidableEq, Repr

/-- What a file defines. -/
inductive BundleKind where
  /-- A bundle. -/
  | bundle
  /-- An agent. -/
  | agent
  deriving DecidableEq, Repr

/-- Name of a mode. -/
def CheckMode.text : CheckMode → String
  | .fast => "fast"
  | .comprehensive => "comprehensive"

/-- All modes. -/
def CheckMode.all : List CheckMode := [.fast, .comprehensive]

/-- The mode with a name. -/
def CheckMode.ofText? (name : String) : Option CheckMode :=
  all.find? fun mode => mode.text == name

/-- Name of a kind. -/
def BundleKind.text : BundleKind → String
  | .bundle => "bundle"
  | .agent => "agent"

/-- The kind with a name. -/
def BundleKind.ofText? (name : String) : Option BundleKind :=
  [bundle, agent].find? fun kind => kind.text == name

/-- The issues found in one file. -/
structure Report where
  /-- The file. -/
  path : Path
  /-- Issues in the order in which they were found. -/
  issues : List Issue
  /-- Names of the checks that ran, in order. -/
  checksRun : List String
  /-- Mode of the run. -/
  mode : CheckMode
  /-- What the file defines, if its front matter was read. -/
  kind : Option BundleKind
  /-- Duration of the run in milliseconds. -/
  durationMs : Nat
  deriving DecidableEq, Repr

namespace Report

/-- A report before anything has been found. -/
def start (path : Path) (mode : CheckMode) : Report :=
  { path, issues := [], checksRun := [], mode, kind := none, durationMs := 0 }

/-- A report in which one more check is noted to have run. -/
def noteRun (report : Report) (name : String) : Report :=
  { report with checksRun := report.checksRun ++ [name] }

/-- A report with one more issue. -/
def add (report : Report) (issue : Issue) : Report :=
  { report with issues := report.issues ++ [issue] }

/-- A report with more issues. -/
def extend (report : Report) (issues : List Issue) : Report :=
  { report with issues := report.issues ++ issues }

/-- Issues of one severity, in order. -/
def ofSeverity (report : Report) (severity : Severity) : List Issue :=
  report.issues.filter fun issue => issue.severity == severity

/-- Issues that fail the file. -/
def errors (report : Report) : List Issue := report.ofSeverity .error

/-- Issues that may fail the file when checks are strict. -/
def warnings (report : Report) : List Issue := report.ofSeverity .warning

/-- Suggestions. -/
def infos (report : Report) : List Issue := report.ofSeverity .info

/-- Whether some issue fails the file. -/
def hasErrors (report : Report) : Bool :=
  report.issues.any fun issue => issue.severity.isBlocking

/-- Whether no issue fails the file. -/
def passed (report : Report) : Bool :=
  !report.hasErrors

/-- Codes of the issues, in order. -/
def codes (report : Report) : List String :=
  report.issues.map (·.code)

end Report

end BundleLint
