import BundleLint.Json
import BundleLint.Report.Text

/-!
# Reports as JSON

The document that describes several reports, with the sums over all of them.
-/

namespace BundleLint

/-- Version of the layout of the document. -/
def layoutVersion : String := "1.0.0"

/-- Version of the program. -/
def programVersion : String := "0.1.0"

/-- An issue as a document. -/
def Issue.json (issue : Issue) : Json :=
  .object
    [("severity", .string issue.severity.text), ("code", .string issue.code),
      ("message", .string issue.message), ("file_path", .ofOption .string issue.filePath),
      ("line", .ofOption .number issue.line), ("fix_hint", .ofOption .text issue.fixHint)]

/-- A report as a document. -/
def Report.json (report : Report) : Json :=
  .object
    [("bundle_path", .string report.path.text), ("mode", .string report.mode.text),
      ("bundle_kind", .ofOption (fun kind => .string (BundleKind.text kind)) report.kind),
      ("passed", .bool report.passed), ("has_errors", .bool report.hasErrors),
      ("checks_run", .array (report.checksRun.map .string)),
      ("issues", .array (report.issues.map Issue.json)),
      ("error_count", .number report.errors.length),
      ("warning_count", .number report.warnings.length),
      ("info_count", .number report.infos.length),
      ("duration_ms", .number report.durationMs)]

/-- What sums up several reports. -/
structure Summary where
  /-- Number of reports. -/
  total : Nat
  /-- Number of reports without errors. -/
  passed : Nat
  /-- Number of reports with errors. -/
  failed : Nat
  /-- Number of errors. -/
  errors : Nat
  /-- Number of warnings. -/
  warnings : Nat
  deriving DecidableEq, Repr

/-- Sums up reports. -/
def Summary.of (reports : List Report) : Summary :=
  let failed := (reports.filter fun report => !report.passed).length
  { total := reports.length
    passed := reports.length - failed
    failed
    errors := (reports.map fun report => report.errors.length).foldr (· + ·) 0
    warnings := (reports.map fun report => report.warnings.length).foldr (· + ·) 0 }

/-- A summary as a document. -/
def Summary.json (summary : Summary) : Json :=
  .object
    [("status", .string (Report.verdict (summary.failed == 0))), ("total", .number summary.total),
      ("passed", .number summary.passed), ("failed", .number summary.failed),
      ("errors", .number summary.errors), ("warnings", .number summary.warnings)]

/-- Reports as one document, made at the given time. -/
def reportsJson (time : String) (reports : List Report) : Json :=
  .object
    [("version", .string layoutVersion), ("tool_version", .string programVersion),
      ("timestamp", .string time), ("summary", (Summary.of reports).json),
      ("reports", .array (reports.map Report.json))]

end BundleLint
