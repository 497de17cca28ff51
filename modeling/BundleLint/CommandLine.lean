import BundleLint.CommandLine.Arguments
import BundleLint.CommandLine.Usage
import BundleLint.Settings.Load
import BundleLint.Suite

/-!
# The command line

The whole program: it reads the command line and the settings, runs the checks on each file and
writes the reports. The exit code is zero if all files passed, one if some did not, and two if the
command line or the settings are wrong.
-/

namespace BundleLint.CommandLine

/-- What the program leaves behind. -/
structure Completion where
  /-- Exit code. -/
  exitCode : Nat
  /-- What it wrote as its output. -/
  output : String
  /-- What it wrote as errors. -/
  errors : String
  /-- Warnings that it logged. -/
  warnings : List String
  deriving DecidableEq, Repr

/-- A fault that the program does not handle. -/
inductive Crash where
  /-- The settings cannot be loaded. -/
  | settings (fault : LoadFault)
  /-- A run gives no report. -/
  | run (fault : RunFault)
  /-- A check to be left out has no name. -/
  | nameless

/-- Exit code of success. -/
def successCode : Nat := 0

/-- Exit code of files that did not pass. -/
def failureCode : Nat := 1

/-- Exit code of a wrong command line or wrong settings. -/
def fatalCode : Nat := 2

/-- The end of a program with a wrong command line. -/
def usageError (fault : ArgumentFault) : Completion :=
  { exitCode := fatalCode, output := ""
    errors := usage ++ programName ++ ": error: " ++ fault.message ++ "\n"
    warnings := [] }

/-- The end of a program that cannot go on. -/
def fatalError (message : String) : Completion :=
  { exitCode := fatalCode, output := "", errors := "ERROR: " ++ message ++ "\n", warnings := [] }

/-- The end of a program that only shows a text. -/
def shownText (text : String) : Completion :=
  { exitCode := successCode, output := text, errors := "", warnings := [] }

/-- The settings that a command line and loaded settings make together. -/
structure Plan where
  /-- Mode of the runs. -/
  mode : CheckMode
  /-- How reports are shown. -/
  format : OutputFormat
  /-- Whether warnings count as failures. -/
  strict : Bool
  /-- Names of checks to be left out. -/
  skipped : List String
  deriving DecidableEq, Repr

/-- Puts a command line above loaded settings. -/
def plan (arguments : Arguments) (settings : Settings) : Plan :=
  { mode := arguments.mode.getD settings.mode
    format := if arguments.json then .json else settings.format
    strict := arguments.strict || settings.strict
    skipped := settings.disabledChecks ++ arguments.skipped }

/-- Names that are no built-in checks, in order and each once. -/
def unknownNames (names : List String) : List String :=
  Text.sorted (· < ·) (names.filter fun name => (BuiltInCheck.ofName? name).isNone).eraseDups

/-- Wording of names that are no built-in checks. -/
def unknownNamesMessage (names : List String) : String :=
  "unknown check name(s): " ++ ", ".intercalate names ++ " (known: " ++
    ", ".intercalate (Text.sorted (· < ·) (BuiltInCheck.all.map (·.name))) ++ ")"

/-- Exit code for reports. -/
def exitCode (strict : Bool) (reports : List Report) : Nat :=
  if reports.any (·.hasErrors) then failureCode
  else if strict && reports.any (fun report => !report.warnings.isEmpty) then failureCode
  else successCode

/-- Texts of reports, each on lines of its own. -/
def reportTexts (reports : List Report) : String :=
  String.join (reports.map fun report => report.text ++ "\n")

/-- The line that closes the texts of reports. -/
def closingLine (reports : List Report) : String :=
  let failed := (reports.filter fun report => !report.passed).length
  let total := toString reports.length
  if failed == 0 then "\nBundle validation PASSED (" ++ total ++ " files).\n"
  else "\nBundle validation FAILED (" ++ toString failed ++ " of " ++ total ++ " files).\n"

/-- Shows reports as text: those of files that passed as output, the others as errors. -/
def showTexts (strict : Bool) (reports : List Report) : Completion :=
  let passed := reports.filter (·.passed)
  let failed := reports.filter fun report => !report.passed
  let output := reportTexts passed
  let errors := reportTexts failed
  let closing := closingLine reports
  { exitCode := exitCode strict reports
    output := if failed.isEmpty then output ++ closing else output
    errors := if failed.isEmpty then errors else errors ++ closing
    warnings := [] }

/-- Shows reports as a JSON document made at a time. -/
def showJson (strict : Bool) (time : String) (reports : List Report) : Completion :=
  { exitCode := exitCode strict reports
    output := (reportsJson time reports).pretty ++ "\n"
    errors := ""
    warnings := [] }

/-- Runs checks on files as planned. -/
def runPlan (files : Files) (time : String) (extend : Suite → Suite) (plan : Plan)
    (paths : List String) : Except Crash Completion := do
  let suite := extend (.standard plan.skipped)
  let reports ←
    (paths.mapM fun path => suite.run files plan.mode (.ofText path)).mapError .run
  match plan.format with
  | .json => return showJson plan.strict time reports
  | .text => return showTexts plan.strict reports

/-- Does what a command line asks for with loaded settings. -/
def runWith (files : Files) (time : String) (extend : Suite → Suite) (arguments : Arguments)
    (settings : Settings) : Except Crash Completion :=
  let plan := plan arguments settings
  if arguments.hasNameless then .error .nameless
  else
    match unknownNames plan.skipped with
    | [] => runPlan files time extend plan arguments.paths
    | names => .ok (fatalError (unknownNamesMessage names))

/-- The program: `time` is the time of the JSON document, and `extend` registers further checks. -/
def execute (world : World) (time : String) (extend : Suite → Suite) (words : List String) :
    Except Crash Completion :=
  match readArguments words with
  | .error fault => .ok (usageError fault)
  | .ok .help => .ok (shownText help)
  | .ok .version => .ok (shownText versionText)
  | .ok (.run arguments) =>
    match Settings.load world with
    | .error (.configuration fault) => .ok (fatalError fault.message)
    | .error fault => .error (.settings fault)
    | .ok loaded =>
      (runWith world.files time extend arguments loaded.settings).map fun completion =>
        { completion with warnings := loaded.warnings }

end BundleLint.CommandLine
