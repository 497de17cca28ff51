import BundleLint.Report

/-!
# Reports as text

Reports for a terminal: each issue with its hint below it, and one line that sums up.
-/

namespace BundleLint

/-- Tag of a severity. -/
def Severity.tag : Severity → String
  | .error => "[FAIL]"
  | .warning => "[WARN]"
  | .info => "[INFO]"

namespace Issue

/-- Path of the file, or a stand-in for a path that is missing or empty. -/
def shownPath (issue : Issue) : String :=
  match issue.filePath with
  | some path => if path.isEmpty then "<unknown>" else path
  | none => "<unknown>"

/-- Path and line of an issue. -/
def location (issue : Issue) : String :=
  match issue.line with
  | some line => issue.shownPath ++ ":" ++ toString line
  | none => issue.shownPath

/-- Indents the lines of a text after the first one. -/
def hang (text : List Char) : List Char :=
  text.flatMap fun c => if c == '\n' then '\n' :: List.replicate 7 ' ' else [c]

/-- The hint of an issue on lines of its own; an empty hint counts as none. -/
def hintText (hint : Option (List CodePoint)) : String :=
  match hint with
  | some hint =>
    if hint.isEmpty then "" else "\n  Fix: " ++ String.ofList (hang (Text.shown hint))
  | none => ""

/-- Text of an issue. -/
def text (issue : Issue) : String :=
  issue.severity.tag ++ " " ++ issue.code ++ ": " ++ issue.location ++ ": " ++ issue.message ++
    hintText issue.fixHint

end Issue

namespace Report

/-- Verdict in one word. -/
def verdict (passed : Bool) : String :=
  if passed then "PASSED" else "FAILED"

/-- The line that sums up a report. -/
def summary (report : Report) : String :=
  report.path.text ++ ": " ++ verdict report.passed ++ " (" ++
    toString report.errors.length ++ " errors, " ++
    toString report.warnings.length ++ " warnings, " ++
    toString report.infos.length ++ " info; " ++
    toString report.checksRun.length ++ " checks run)"

/-- Text of a report. -/
def text (report : Report) : String :=
  "\n".intercalate (report.issues.map Issue.text ++ [report.summary])

end Report

end BundleLint
