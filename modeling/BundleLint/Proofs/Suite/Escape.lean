import BundleLint.Proofs.FrontMatter.Rejection
import BundleLint.Proofs.Suite.Blocks

/-!
# Faults that escape a run

A run on a file gives a report unless the reader breaks off with a fault that is not reported, or a
check with an exception that has no text. Any other block that cannot be read makes a report with
one issue.
-/

namespace BundleLint

open FrontMatter (Unreported layout reading)

theorem syntaxIssue_eq_earlyError (path : Path) (rejection : FrontMatter.Rejection) :
    ∃ message line,
      syntaxIssue path rejection = earlyError path "YAML_SYNTAX" message line syntaxHint := by
  unfold syntaxIssue
  cases rejection.position with
  | none => exact ⟨_, _, rfl⟩
  | some position => exact ⟨_, _, rfl⟩

theorem syntaxIssue_code (path : Path) (rejection : FrontMatter.Rejection) :
    (syntaxIssue path rejection).code = "YAML_SYNTAX" := by
  obtain ⟨message, line, issue_eq⟩ := syntaxIssue_eq_earlyError path rejection
  rw [issue_eq]
  rfl

namespace Suite

/-- A run makes no report exactly if splitting the text of the file lets a fault escape, or if a
check breaks off on the bundle with an exception that has no text. -/
theorem run_eq_error_iff {suite : Suite} {files : Files} {mode : CheckMode} {path : Path}
    {fault : RunFault} :
    suite.run files mode path = .error fault ↔
      ∃ content, openText files path = .text content ∧
        ((∃ own, fault = .reader own ∧ FrontMatter.split content = .error (.escaped own)) ∨
          ∃ own parts, fault = .untold own ∧ FrontMatter.split content = .ok parts ∧
            suite.BreaksFirst mode { config := parts.config, body := parts.body, path } own) := by
  unfold run
  cases openText files path with
  | absent => simp
  | unreadable readFault => simp
  | text content =>
      simp only [Opened.text.injEq, exists_eq_left']
      cases FrontMatter.split content with
      | ok parts =>
          simp only [mapError_eq_error_iff, inspect_eq_error_iff]
          constructor
          · rintro ⟨own, breaks, rfl⟩
            exact .inr ⟨own, parts, rfl, rfl, breaks⟩
          · rintro (⟨own, -, ⟨⟩⟩ | ⟨own, _, rfl, ⟨⟩, breaks⟩)
            exact ⟨own, breaks, rfl⟩
      | error failure =>
          cases failure with
          | rejected rejection => simp
          | escaped escaped => simp [eq_comm]

/-- A file whose front matter is rejected has one issue, whatever checks there are. -/
theorem run_of_rejected {files : Files} {path : Path} {content : List Char}
    {rejection : FrontMatter.Rejection} (opened : openText files path = .text content)
    (rejected : FrontMatter.split content = .error (.rejected rejection)) (suite : Suite)
    (mode : CheckMode) :
    suite.run files mode path =
      .ok { Report.start path mode with issues := [syntaxIssue path rejection] } := by
  unfold run
  rw [opened]
  dsimp only
  rw [rejected]
  rfl

/-- A run makes no report exactly if the front matter has a fault that is not reported, or if the
first check without a text for its exception comes up. Any other front matter that cannot be read
gives a report with one issue, about its syntax. -/
theorem run_escapes_iff (suite : Suite) (files : Files) (mode : CheckMode) (path : Path) :
    (∀ fault,
      suite.run files mode path = .error (.reader fault) ↔
        ∃ content block body,
          openText files path = .text content ∧ layout content = .block block body ∧
            Unreported block fault) ∧
    (∀ fault,
      suite.run files mode path = .error (.untold fault) ↔
        ∃ content parts,
          openText files path = .text content ∧ FrontMatter.split content = .ok parts ∧
            suite.BreaksFirst mode { config := parts.config, body := parts.body, path } fault) ∧
    (∀ content block body fault,
      openText files path = .text content → layout content = .block block body →
        reading block = .error fault → ¬Unreported block fault →
          ∃ issue, issue.code = "YAML_SYNTAX" ∧
            suite.run files mode path =
              .ok { Report.start path mode with issues := [issue] }) := by
  refine ⟨?reader, ?untold, ?rejected⟩
  case reader =>
    intro fault
    simp only [run_eq_error_iff, RunFault.reader.injEq, exists_eq_left', reduceCtorEq, false_and,
      exists_false, or_false, FrontMatter.split_eq_escaped_iff]
    constructor
    · rintro ⟨content, opened, block, body, layout_eq, unreported⟩
      exact ⟨content, block, body, opened, layout_eq, unreported⟩
    · rintro ⟨content, block, body, opened, layout_eq, unreported⟩
      exact ⟨content, opened, block, body, layout_eq, unreported⟩
  case untold =>
    intro fault
    simp only [run_eq_error_iff, RunFault.untold.injEq, reduceCtorEq, false_and, exists_false,
      false_or]
    constructor
    · rintro ⟨content, opened, own, parts, rfl, parted, breaks⟩
      exact ⟨content, parts, opened, parted, breaks⟩
    · rintro ⟨content, parts, opened, parted, breaks⟩
      exact ⟨content, opened, fault, parts, rfl, parted, breaks⟩
  case rejected =>
    intro content block body fault opened layout_eq failed reported
    obtain ⟨rejection, settings_eq⟩ := FrontMatter.settings_of_error failed reported
    have rejected : FrontMatter.split content = .error (.rejected rejection) := by
      unfold FrontMatter.split
      rw [layout_eq]
      dsimp only
      rw [settings_eq]
      rfl
    exact ⟨_, syntaxIssue_code path rejection, run_of_rejected opened rejected suite mode⟩

/-- A list that is not closed. -/
def unclosedText : String := "---\na: [\n---\n"

theorem run_escapes_iff_unclosed :
    ∃ block fault issue,
      openText (fun _ => .file unclosedText.toUTF8.toList) ⟨0, ["b.md"]⟩ =
          .text unclosedText.toList ∧
        layout unclosedText.toList = .block block [] ∧ reading block = .error fault ∧
        ¬Unreported block fault ∧ issue.code = "YAML_SYNTAX" ∧
        (standard []).run (fun _ => .file unclosedText.toUTF8.toList) .fast ⟨0, ["b.md"]⟩ =
          .ok { Report.start ⟨0, ["b.md"]⟩ .fast with issues := [issue] } := by
  have opened :
      openText (fun _ => .file unclosedText.toUTF8.toList) ⟨0, ["b.md"]⟩ =
        .text unclosedText.toList := by
    decide +kernel
  have layout_eq : layout unclosedText.toList = .block "a: [\n".toList [] := by decide +kernel
  have reported :
      (match reading "a: [\n".toList with
      | .error fault => decide fault.IsReported
      | .ok _ => false) = true := by
    decide +kernel
  cases failed : reading "a: [\n".toList with
  | ok document =>
      rw [failed] at reported
      cases reported
  | error fault =>
      rw [failed] at reported
      have not_escaped : ¬Unreported "a: [\n".toList fault := fun unreported =>
        (FrontMatter.unreported_iff.mp unreported).2 (of_decide_eq_true reported)
      obtain ⟨-, -, rejects⟩ :=
        run_escapes_iff (standard []) (fun _ => .file unclosedText.toUTF8.toList) .fast
          ⟨0, ["b.md"]⟩
      obtain ⟨issue, code_eq, run_eq⟩ := rejects _ _ _ _ opened layout_eq failed not_escaped
      exact ⟨_, fault, issue, opened, layout_eq, failed, not_escaped, code_eq, run_eq⟩

/-- A word that stands for no truth value, under the tag of a truth value. -/
def maybeText : String := "---\nname: !!bool maybe\n---\n"

theorem run_escapes_unknownWord :
    ¬∀ (suite : Suite) (files : Files) (mode : CheckMode) (path : Path),
      ∃ report, suite.run files mode path = .ok report := by
  intro nothing_escapes
  have escapes :
      ((standard []).run (fun _ => .file maybeText.toUTF8.toList) .fast
        ⟨0, ["b.md"]⟩).isOk = false := by
    decide +kernel
  obtain ⟨report, run_eq⟩ :=
    nothing_escapes (standard []) (fun _ => .file maybeText.toUTF8.toList) .fast ⟨0, ["b.md"]⟩
  rw [run_eq] at escapes
  cases escapes

end Suite

end BundleLint
