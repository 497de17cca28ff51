import BundleLint.Proofs.Report.Lines
import BundleLint.Proofs.Report.Views

/-!
# Reading the text of a report

The text of a report is taken apart again: the last line sums up, every line that begins with a
bracket opens an issue, and the indented lines below it are its hint. Whatever a hint contains, the
indentation keeps its lines from being taken for anything else, and taking the indentation off
gives the hint back.
-/

namespace BundleLint

open CodePoint (lineFeed space)
open Issue (hintIndent hintLines)
open Text (shown ofString)

/-! ## The reader -/

/-- What is read of an issue. -/
structure Digest.Entry where
  /-- How bad it is, by its tag. -/
  severity : Severity
  /-- What stands after the tag. -/
  header : List CodePoint
  /-- The hint, if there is one. -/
  hint : Option (List CodePoint)
  deriving DecidableEq

/-- What the last line says. -/
structure Digest.Closing where
  /-- Whether the file passed. -/
  passed : Bool
  /-- Number of errors. -/
  errors : Nat
  /-- Number of warnings. -/
  warnings : Nat
  /-- Number of suggestions. -/
  infos : Nat
  /-- Number of checks that ran. -/
  checks : Nat
  deriving DecidableEq

/-- What is read of a report. -/
structure Digest where
  /-- Its issues, in order. -/
  entries : List Digest.Entry
  /-- What its last line says. -/
  closing : Digest.Closing
  deriving DecidableEq

namespace Digest

/-- Whether a line begins with a bracket. -/
def isHeading (line : List CodePoint) : Bool :=
  line.head? == some (.char '[')

/-- Whether a line begins with two spaces. -/
def isIndented (line : List CodePoint) : Bool :=
  [space, space].isPrefixOf line

/-- Groups each line that begins with a bracket with the indented lines that follow it. A line that
is in no group is refused. -/
def groups? : List (List CodePoint) → Option (List (List CodePoint × List (List CodePoint)))
  | [] => some []
  | line :: rest =>
      if isHeading line then
        (groups? (rest.dropWhile isIndented)).map ((line, rest.takeWhile isIndented) :: ·)
      else none
termination_by lines => lines.length
decreasing_by exact Nat.lt_succ_of_le (List.length_dropWhile_le ..)

/-- Reads the tag of a severity and keeps the text after it. -/
def heading? (line : List CodePoint) : Option (Severity × List CodePoint) :=
  [.error, .warning, .info].findSome? fun severity =>
    (line.dropPrefix? (ofString (severity.tag ++ " "))).map (severity, ·)

/-- Takes the mark off the first line of a hint and the indentation off the others. -/
def hint? : List (List CodePoint) → Option (Option (List CodePoint))
  | [] => some none
  | first :: others => do
      let first ← first.dropPrefix? (ofString "  Fix: ")
      let others ← others.mapM (·.dropPrefix? hintIndent)
      return some ([lineFeed].intercalate (first :: others))

/-- Reads an issue from the line that opens it and the indented lines. -/
def entry? (group : List CodePoint × List (List CodePoint)) : Option Entry := do
  let (severity, header) ← heading? group.1
  let hint ← hint? group.2
  return { severity, header, hint }

/-- Reads a number. -/
def number? (word : List CodePoint) : Option Nat :=
  if word.all (·.satisfies Char.isDigit) then some (Nat.ofDigitChars 10 (shown word) 0) else none

/-- Reads a verdict. -/
def verdict? (word : List CodePoint) : Option Bool :=
  [true, false].find? fun passed => ofString (Report.verdict passed) == word

/-- Reads the last words of a line. What comes before them is the path, with spaces or without. -/
def closing? (line : List CodePoint) : Option Closing :=
  match (line.splitOn space).reverse with
  | _ :: _ :: checks :: _ :: infos :: _ :: warnings :: _ :: errors :: verdict :: _ => do
      let passed ← verdict? verdict
      let errors ← (errors.dropPrefix? (ofString "(")).bind number?
      let warnings ← number? warnings
      let infos ← number? infos
      let checks ← number? checks
      return { passed, errors, warnings, infos, checks }
  | _ => none

/-- Reads the text of a report. -/
def read? (text : List CodePoint) : Option Digest := do
  let lines := text.splitOn lineFeed
  let closing ← lines.getLast?.bind closing?
  let groups ← groups? lines.dropLast
  let entries ← groups.mapM entry?
  return { entries, closing }

/-- What is to be read in the last line below some issues. -/
def Closing.of (entries : List Entry) (checks : Nat) : Closing :=
  let count (severity : Severity) := entries.countP fun entry => entry.severity == severity
  { passed := count .error == 0
    errors := count .error
    warnings := count .warning
    infos := count .info
    checks }

theorem mapM_map_eq_some {α β γ : Type} {write : α → β} {read : β → Option γ} {told : α → γ}
    (each : ∀ item, read (write item) = some (told item)) (items : List α) :
    (items.map write).mapM read = some (items.map told) := by
  have reads : read ∘ write = fun item => pure (told item) := funext each
  rw [List.mapM_map, reads, List.mapM_pure]
  rfl

theorem dropPrefix?_append (front back : List CodePoint) :
    (front ++ back).dropPrefix? front = some back :=
  List.dropPrefix?_append_of_beq back (beq_self_eq_true front)

/-! ## Reading the issues -/

theorem heading?_heading (issue : Issue) :
    heading? issue.heading = some (issue.severity, ofString issue.header) := by
  rw [Issue.heading, ofString_append]
  cases issue.severity <;>
    simp [heading?, Severity.tag, ofString, Text.points, List.dropPrefix?]

theorem isHeading_heading (issue : Issue) : isHeading issue.heading = true := by
  rw [Issue.heading, String.append_assoc, ofString_append]
  cases issue.severity <;> rfl

theorem isIndented_heading (issue : Issue) : isIndented issue.heading = false := by
  rw [Issue.heading, String.append_assoc, ofString_append]
  cases issue.severity <;> rfl

/-- The lines of a hint are read as the hint. -/
theorem hint?_hintLines (hint : Option (List CodePoint)) : hint? (hintLines hint) = some hint := by
  cases hint with
  | none => rfl
  | some hint =>
      have joined : [lineFeed].intercalate (hint.splitOn lineFeed) = hint :=
        List.intercalate_splitOn lineFeed
      rw [hintLines]
      cases parts_eq : hint.splitOn lineFeed with
      | nil => exact absurd parts_eq (List.splitOn_ne_nil lineFeed hint)
      | cons first others =>
          rw [parts_eq] at joined
          have others_read : (others.map (hintIndent ++ ·)).mapM (·.dropPrefix? hintIndent) =
              some (others.map id) := by
            refine mapM_map_eq_some ?_ others
            exact fun other => dropPrefix?_append hintIndent other
          rw [List.map_id] at others_read
          rw [Issue.hangLines, List.modifyHead_cons, hint?, dropPrefix?_append, others_read]
          simp [joined]

theorem isIndented_of_mem_hintLines {hint : Option (List CodePoint)} :
    ∀ line ∈ hintLines hint, isIndented line = true := by
  cases hint with
  | none => exact List.forall_mem_nil _
  | some hint =>
      rw [hintLines]
      cases hint.splitOn lineFeed with
      | nil => exact List.forall_mem_nil _
      | cons first others =>
          rw [Issue.hangLines, List.modifyHead_cons, List.forall_mem_cons, List.forall_mem_map]
          exact ⟨rfl, fun _ _ => rfl⟩

/-- No line of an issue but the first one belongs to the issue before it. -/
theorem takeWhile_lines (issues : List Issue) :
    (issues.flatMap Issue.lines).takeWhile isIndented = [] := by
  cases issues with
  | nil => rfl
  | cons issue issues => simp [Issue.lines, isIndented_heading]

theorem dropWhile_lines (issues : List Issue) :
    (issues.flatMap Issue.lines).dropWhile isIndented = issues.flatMap Issue.lines := by
  cases issues with
  | nil => rfl
  | cons issue issues => simp [Issue.lines, isIndented_heading]

/-- The lines of issues are grouped by the issues. -/
theorem groups?_lines (issues : List Issue) :
    groups? (issues.flatMap Issue.lines) =
      some (issues.map fun issue => (issue.heading, hintLines issue.hint?)) := by
  induction issues with
  | nil => simp [groups?]
  | cons issue issues ih =>
      rw [List.flatMap_cons, Issue.lines, List.cons_append, groups?,
        if_pos (isHeading_heading issue),
        List.dropWhile_append_of_pos isIndented_of_mem_hintLines,
        List.takeWhile_append_of_pos isIndented_of_mem_hintLines, dropWhile_lines,
        takeWhile_lines, ih]
      simp

/-! ## Reading the last line -/

theorem number?_repr (n : Nat) : number? (ofString n.repr) = some n := by
  have digits : (ofString n.repr).all (·.satisfies Char.isDigit) = true := by
    rw [List.all_eq_true]
    intro point member
    obtain ⟨c, digit, rfl⟩ := List.mem_map.mp member
    rw [Nat.toList_repr] at digit
    exact Nat.isDigit_of_mem_toDigits (by decide) (by decide) digit
  rw [number?, if_pos digits, ofString, Text.shown_points, Nat.toList_repr,
    Nat.ofDigitChars_ten_toDigits]

theorem verdict?_verdict (passed : Bool) :
    verdict? (ofString (Report.verdict passed)) = some passed := by
  cases passed <;> decide

end Digest

namespace Report

/-- What the last line of the text says. -/
def closing (report : Report) : Digest.Closing :=
  { passed := report.passed
    errors := report.errors.length
    warnings := report.warnings.length
    infos := report.infos.length
    checks := report.checksRun.length }

theorem closing?_summary (report : Report) :
    Digest.closing? (ofString report.summary) = some report.closing := by
  have words_split : ([space].intercalate (report.summaryWords.map ofString)).splitOn space =
      report.summaryWords.map ofString :=
    List.splitOn_intercalate space report.space_not_mem_summaryWords nofun
  have errors_read : ((ofString ("(" ++ report.errors.length.repr)).dropPrefix?
      (ofString "(")).bind Digest.number? = some report.errors.length := by
    rw [ofString_append, Digest.dropPrefix?_append, Option.bind_some, Digest.number?_repr]
  rw [Digest.closing?, ofString_summary, List.splitOn_append_cons_self, words_split,
    List.reverse_append]
  simp [summaryWords, Digest.verdict?_verdict, errors_read, Digest.number?_repr, closing]

/-- What is to be read in the text of a report: the issues, and the sums over them. -/
def digest (report : Report) : Digest :=
  let entries := report.issues.map fun issue =>
    { severity := issue.severity, header := ofString issue.header, hint := issue.hint? }
  { entries, closing := .of entries report.checksRun.length }

/-- The last line says the sums over the issues that are read. -/
theorem closing_digest (report : Report) : report.digest.closing = report.closing := by
  have count_eq (severity : Severity) :
      report.digest.entries.countP (fun entry => entry.severity == severity) =
        (report.ofSeverity severity).length := by
    rw [digest, List.countP_map, List.countP_eq_length_filter, ofSeverity]
    rfl
  have passed_eq : (report.errors.length == 0) = report.passed := by
    rw [Bool.eq_iff_iff, report.passed_eq_true_iff, beq_iff_eq, List.length_eq_zero_iff]
  change Digest.Closing.of report.digest.entries _ = _
  simp only [Digest.Closing.of, count_eq, closing, ← passed_eq]
  rfl

theorem entries_digest (report : Report) :
    (Digest.groups? (report.issues.flatMap Issue.lines)).bind (·.mapM Digest.entry?) =
      some report.digest.entries := by
  have each (issue : Issue) : Digest.entry? (issue.heading, hintLines issue.hint?) = some
      { severity := issue.severity, header := ofString issue.header, hint := issue.hint? } := by
    simp [Digest.entry?, Digest.heading?_heading, Digest.hint?_hintLines]
  rw [Digest.groups?_lines, Option.bind_some, Digest.mapM_map_eq_some each]
  rfl

theorem read?_spelled {report : Report} (lined : report.IsLined) :
    Digest.read? report.spelled = some report.digest := by
  obtain ⟨groups, grouped, each⟩ := Option.bind_eq_some_iff.mp report.entries_digest
  rw [Digest.read?, lined.splitOn_spelled, List.getLast?_concat, List.dropLast_concat,
    Option.bind_some, report.closing?_summary, ← report.closing_digest]
  simp [grouped, each]

/-- The text of a report is read as its issues, in order and with their hints, and as the sums over
them. Halves of characters in hints are read where the text still has them. -/
theorem text_reads_back {report : Report} (lined : report.IsLined) :
    Digest.read? report.spelled = some report.digest ∧
      shown report.spelled = report.text.toList ∧
      (report.HasWholeHints → Digest.read? (ofString report.text) = some report.digest) := by
  have read_eq := read?_spelled lined
  refine ⟨read_eq, report.shown_spelled, ?_⟩
  intro whole
  rw [← spelled_of_whole whole, read_eq]

/-- A report with a hint whose lines look like other lines of the text, and with an empty hint. -/
def trickyReport : Report :=
  { Report.start ⟨0, ["my files", "a.md"]⟩ .fast with
    checksRun := ["toml"]
    issues :=
      [{ severity := .error, code := "E", message := "m", filePath := some "f", line := some 2
         fixHint := some (ofString "a\n\n[INFO] X: f: y\n  Fix: b\na: PASSED") },
        { severity := .info, code := "N", message := "[WARN] n", filePath := some "", line := none
          fixHint := some [] }] }

theorem text_reads_back_tricky :
    trickyReport.IsLined ∧ trickyReport.HasWholeHints ∧
      Digest.read? (ofString trickyReport.text) = some
        { entries :=
            [{ severity := .error, header := ofString "E: f:2: m"
               hint := some (ofString "a\n\n[INFO] X: f: y\n  Fix: b\na: PASSED") },
              { severity := .info, header := ofString "N: <unknown>: [WARN] n", hint := none }]
          closing :=
            { passed := false, errors := 1, warnings := 0, infos := 1, checks := 1 } } := by
  have lined : trickyReport.IsLined := by
    refine ⟨by decide +kernel, ?_⟩
    rintro issue (_ | ⟨_, _ | ⟨_, ⟨⟩⟩⟩)
    · exact ⟨by decide, by decide, by decide⟩
    · exact ⟨by decide, by decide, by decide⟩
  have whole : trickyReport.HasWholeHints := by
    rintro issue (_ | ⟨_, _ | ⟨_, ⟨⟩⟩⟩) text ⟨⟩
    · exact ⟨_, rfl⟩
    · exact ⟨[], rfl⟩
  refine ⟨lined, whole, ((text_reads_back lined).2.2 whole).trans ?_⟩
  decide +kernel

end Report

end BundleLint
