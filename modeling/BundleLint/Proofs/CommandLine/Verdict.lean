import BundleLint.CommandLine
import BundleLint.Proofs.Check.Fault
import BundleLint.Proofs.Outcome
import BundleLint.Proofs.Suite.Ending

/-!
# The verdict of the program

The exit code, the summary and the places to which the program writes tell the same: whether every
report passed. No issue of the built-in checks is a warning, so strictness changes nothing.
-/

namespace BundleLint

/-- The value of a member of an object. -/
def Json.member? (document : Json) (name : String) : Option Json :=
  match document with
  | .object members => (members.find? fun member => member.1 == name).map (·.2)
  | _ => none

theorem Report.warnings_eq_nil {report : Report}
    (all_errors : ∀ issue ∈ report.issues, issue.severity = .error) : report.warnings = [] := by
  unfold warnings ofSeverity
  rw [List.filter_eq_nil_iff]
  intro issue member
  rw [all_errors issue member]
  decide

namespace Suite

/-- Every issue of a run of the built-in checks is an error. -/
theorem standard_run_errors {skipped : List String} {files : Files} {mode : CheckMode}
    {path : Path} {report : Report} (ran : (standard skipped).run files mode path = .ok report) :
    ∀ issue ∈ report.issues, issue.severity = .error := by
  obtain ⟨ending, -, -, rfl⟩ := run_eq_ok_iff.mp ran
  cases coded : ending.code? with
  | some code =>
      have stopped := (ending.report_stops coded (standard skipped) mode path).1
      obtain ⟨own, issues_eq, severe, -⟩ := stopped.issue
      simpa [issues_eq] using severe
  | none =>
      obtain ⟨bundle, rfl⟩ := Ending.code?_eq_none_iff.mp coded
      intro issue member
      obtain ⟨check, -, here⟩ := mem_standard_issues.mp member
      exact ((check.block_judges _).all_errors _ rfl issue here).1

end Suite

namespace CommandLine

/-- Texts of reports on the two streams, one report after the other: on the first stream that of a
report that passed, on the second one that of any other. -/
inductive Written : List Report → String → String → Prop
  | none : Written [] "" ""
  | passed {report : Report} {reports : List Report} {output errors : String}
      (passes : report.passed = true) (others : Written reports output errors) :
      Written (report :: reports) (report.text ++ "\n" ++ output) errors
  | failed {report : Report} {reports : List Report} {output errors : String}
      (fails : report.passed = false) (others : Written reports output errors) :
      Written (report :: reports) output (report.text ++ "\n" ++ errors)

theorem reportTexts_cons (report : Report) (reports : List Report) :
    reportTexts (report :: reports) = report.text ++ "\n" ++ reportTexts reports := by
  unfold reportTexts
  rw [List.map_cons, String.join_cons]

/-- The texts of the reports are written once each. -/
theorem written_texts (reports : List Report) :
    Written reports (reportTexts (reports.filter (·.passed)))
      (reportTexts (reports.filter fun report => !report.passed)) := by
  induction reports with
  | nil => exact .none
  | cons report reports ih =>
      cases passed_eq : report.passed with
      | true =>
          rw [List.filter_cons_of_pos passed_eq, List.filter_cons_of_neg (by simp [passed_eq]),
            reportTexts_cons]
          exact .passed passed_eq ih
      | false =>
          rw [List.filter_cons_of_neg (by simp [passed_eq]),
            List.filter_cons_of_pos (by simp [passed_eq]), reportTexts_cons]
          exact .failed passed_eq ih

/-- Without warnings the exit code tells whether every report passed, however strict it is. -/
theorem exitCode_eq {reports : List Report}
    (no_warnings : ∀ report ∈ reports, report.warnings = []) (strict : Bool) :
    exitCode strict reports = if ∀ report ∈ reports, report.passed = true then 0 else 1 := by
  have unwarned : (reports.any fun report => !report.warnings.isEmpty) = false := by
    rw [List.any_eq_false]
    intro report member
    simp [no_warnings report member]
  have blocked_iff :
      reports.any (·.hasErrors) = true ↔ ¬∀ report ∈ reports, report.passed = true := by
    simp [Report.passed]
  unfold exitCode
  rw [unwarned, Bool.and_false]
  split
  · rename_i blocked
    rw [if_neg (blocked_iff.mp blocked)]
    rfl
  · rename_i passing
    rw [if_pos (not_not.mp (mt blocked_iff.mpr passing))]
    rfl

/-- The texts of the reports go to their streams, and the closing line to that of the verdict. -/
theorem showTexts_written (strict : Bool) (reports : List Report) :
    ∃ output errors, Written reports output errors ∧
      if ∀ report ∈ reports, report.passed = true then
        (showTexts strict reports).output =
            output ++ ("\nBundle validation PASSED (" ++ toString reports.length ++ " files).\n") ∧
          (showTexts strict reports).errors = errors
      else
        (showTexts strict reports).output = output ∧
          (showTexts strict reports).errors =
            errors ++
              ("\nBundle validation FAILED (" ++
                toString (reports.countP fun report => !report.passed) ++ " of " ++
                  toString reports.length ++ " files).\n") := by
  refine ⟨_, _, written_texts reports, ?_⟩
  have passing_iff :
      (∀ report ∈ reports, report.passed = true) ↔
        (reports.filter fun report => !report.passed) = [] := by
    simp [List.filter_eq_nil_iff]
  unfold showTexts closingLine
  dsimp only
  split
  · rename_i passing
    rw [passing_iff.mp passing]
    exact ⟨rfl, rfl⟩
  · rename_i failing
    have failed_ne := mt passing_iff.mpr failing
    rw [List.countP_eq_length_filter]
    simp [failed_ne]

/-- The summary of reports tells the verdict and counts the reports that did not pass. -/
theorem summary_members (reports : List Report) :
    (Summary.of reports).json.member? "status" =
        some (.string (if ∀ report ∈ reports, report.passed = true then "PASSED" else "FAILED")) ∧
      (Summary.of reports).json.member? "failed" =
        some (.number (reports.countP fun report => !report.passed)) ∧
      (Summary.of reports).json.member? "total" = some (.number reports.length) := by
  have passing_iff :
      (reports.countP fun report => !report.passed) = 0 ↔
        ∀ report ∈ reports, report.passed = true := by
    simp [List.countP_eq_zero]
  have failed_eq : (Summary.of reports).failed = reports.countP fun report => !report.passed :=
    (List.countP_eq_length_filter ..).symm
  unfold Summary.json
  rw [failed_eq]
  refine ⟨?_, ?_, ?_⟩
  · simp only [Json.member?, Report.verdict, ← passing_iff]
    simp
  · simp [Json.member?]
  · simp [Json.member?, Summary.of]

/-- The reports as they are planned to be shown. -/
def shown (plan : Plan) (time : String) (reports : List Report) : Completion :=
  match plan.format with
  | .json => showJson plan.strict time reports
  | .text => showTexts plan.strict reports

/-- A run without unknown names completes exactly if every file has a report. -/
theorem runWith_eq_ok_iff {files : Files} {time : String} {extend : Suite → Suite}
    {arguments : Arguments} {settings : Settings} {completion : Completion}
    (known : unknownNames (plan arguments settings).skipped = []) :
    runWith files time extend arguments settings = .ok completion ↔
      arguments.hasNameless = false ∧
        ∃ reports,
          (arguments.paths.mapM fun path =>
            (extend (.standard (plan arguments settings).skipped)).run files
              (plan arguments settings).mode (.ofText path)) = .ok reports ∧
          shown (plan arguments settings) time reports = completion := by
  unfold runWith
  dsimp only
  cases arguments.hasNameless with
  | true => simp
  | false =>
      rw [known]
      dsimp only
      unfold runPlan
      dsimp only
      rw [if_neg Bool.false_ne_true, bind_eq_ok_iff]
      simp only [mapError_eq_ok_iff, true_and]
      refine exists_congr fun reports => and_congr_right fun _ => ?_
      unfold shown
      cases (plan arguments settings).format <;> simp [pure, Except.pure]

theorem shown_exitCode (plan : Plan) (time : String) {reports : List Report}
    (no_warnings : ∀ report ∈ reports, report.warnings = []) :
    (shown plan time reports).exitCode =
      if ∀ report ∈ reports, report.passed = true then 0 else 1 := by
  unfold shown
  split
  · exact exitCode_eq no_warnings plan.strict
  · exact exitCode_eq no_warnings plan.strict

/-- Reports without warnings are shown in the same way however strict the plan is. -/
theorem shown_strict (plan : Plan) (time : String) {reports : List Report}
    (no_warnings : ∀ report ∈ reports, report.warnings = []) (strict : Bool) :
    shown { plan with strict } time reports = shown plan time reports := by
  have exitCode_eq : exitCode strict reports = exitCode plan.strict reports := by
    rw [exitCode_eq no_warnings, exitCode_eq no_warnings]
  unfold shown showJson showTexts
  rw [exitCode_eq]

theorem plan_format_eq_json_iff {arguments : Arguments} {settings : Settings} :
    (plan arguments settings).format = .json ↔
      arguments.json = true ∨ settings.format = .json := by
  unfold plan
  cases arguments.json <;> simp

/-- The verdict of a run that comes to its output. The exit code is zero exactly if every report
passed and one otherwise; a JSON document tells this in its summary and leaves the errors empty;
texts go to the output if the report passed and to the errors otherwise, once each and in order,
and the closing line follows the exit code. No report has a warning, so strictness changes nothing;
the whole program completes in this way, apart from the warnings that loading the settings logs. -/
theorem runWith_verdict {files : Files} {time : String} {arguments : Arguments}
    {settings : Settings} {completion : Completion}
    (known : unknownNames (plan arguments settings).skipped = [])
    (ran : runWith files time id arguments settings = .ok completion) :
    ∃ reports : List Report,
      List.Forall₂
        (fun path report =>
          (Suite.standard (plan arguments settings).skipped).run files
            (plan arguments settings).mode (.ofText path) = .ok report)
        arguments.paths reports ∧
      (completion.exitCode = if ∀ report ∈ reports, report.passed = true then 0 else 1) ∧
      (arguments.json = true ∨ settings.format = .json →
        completion.errors = "" ∧
          ∃ document summary : Json, completion.output = document.pretty ++ "\n" ∧
            document.member? "summary" = some summary ∧
            summary.member? "status" =
              some (.string (if completion.exitCode = 0 then "PASSED" else "FAILED")) ∧
            summary.member? "failed" =
              some (.number (reports.countP fun report => !report.passed)) ∧
            summary.member? "total" = some (.number arguments.paths.length)) ∧
      (¬(arguments.json = true ∨ settings.format = .json) →
        ∃ output errors, Written reports output errors ∧
          if completion.exitCode = 0 then
            completion.output =
                output ++
                  ("\nBundle validation PASSED (" ++ toString arguments.paths.length ++
                    " files).\n") ∧
              completion.errors = errors
          else
            completion.output = output ∧
              completion.errors =
                errors ++
                  ("\nBundle validation FAILED (" ++
                    toString (reports.countP fun report => !report.passed) ++ " of " ++
                      toString arguments.paths.length ++ " files).\n")) ∧
      (∀ report ∈ reports, report.warnings = []) ∧
      (∀ flag setting : Bool,
        runWith files time id { arguments with strict := flag }
          { settings with strict := setting } = .ok completion) ∧
      ∀ (world : World) (words : List String) (loaded : Settings.Loaded), world.files = files →
        readArguments words = .ok (.run arguments) → Settings.load world = .ok loaded →
          loaded.settings = settings →
            execute world time id words = .ok { completion with warnings := loaded.warnings } := by
  obtain ⟨named, reports, reported, rfl⟩ := (runWith_eq_ok_iff known).mp ran
  have each := forall₂_of_mapM reported
  have length_eq : arguments.paths.length = reports.length := each.length_eq
  have no_warnings := forall_of_forall₂ each fun path report ran =>
    Report.warnings_eq_nil (Suite.standard_run_errors ran)
  have code_eq := shown_exitCode (plan arguments settings) time no_warnings
  have passed_iff : (shown (plan arguments settings) time reports).exitCode = 0 ↔
      ∀ report ∈ reports, report.passed = true := by
    rw [code_eq]
    split <;> simp_all
  simp only [passed_iff, length_eq]
  refine ⟨reports, each, code_eq, ?_, ?_, no_warnings, ?_, ?_⟩
  · intro wants_json
    unfold shown
    rw [plan_format_eq_json_iff.mpr wants_json]
    exact ⟨rfl, _, _, rfl, rfl, summary_members reports⟩
  · intro wants_text
    have not_json := mt plan_format_eq_json_iff.mp wants_text
    unfold shown
    cases format_eq : (plan arguments settings).format with
    | json => exact absurd format_eq not_json
    | text => exact showTexts_written _ reports
  · intro flag setting
    rw [runWith_eq_ok_iff (by exact known)]
    refine ⟨named, reports, reported, ?_⟩
    exact shown_strict (plan arguments settings) time no_warnings (flag || setting)
  · rintro world words loaded rfl requested loaded_eq rfl
    unfold execute
    rw [requested]
    dsimp only
    rw [loaded_eq]
    dsimp only
    rw [ran]
    rfl

/-- Files of which one holds a bundle that has a name. -/
def namedFiles : Files := fun path =>
  if path.parts = ["a.md"] then .file namedText.toUTF8.toList else .absent

/-- A command line with that file and a missing one. -/
def twoArguments : Arguments :=
  { Progress.initial.arguments with paths := ["a.md", "b.md"] }

theorem runWith_verdict_missing :
    ∃ completion reports output errors,
      unknownNames (plan twoArguments .default).skipped = [] ∧
        runWith namedFiles "" id twoArguments .default = .ok completion ∧
        completion.exitCode = 1 ∧ Written reports output errors ∧ completion.output = output ∧
        (∃ failed, completion.errors =
          errors ++
            ("\nBundle validation FAILED (" ++ failed ++ " of " ++
              toString twoArguments.paths.length ++ " files).\n")) ∧
        runWith namedFiles "" id { twoArguments with strict := true } .default =
          .ok completion := by
  have code_eq :
      (runWith namedFiles "" id twoArguments .default).toOption.map (·.exitCode) = some 1 := by
    decide +kernel
  have known : unknownNames (plan twoArguments .default).skipped = [] := by decide +kernel
  cases ran : runWith namedFiles "" id twoArguments .default with
  | error crash =>
      rw [ran] at code_eq
      cases code_eq
  | ok completion =>
      rw [ran] at code_eq
      have failed : completion.exitCode = 1 := Option.some.inj code_eq
      obtain ⟨reports, -, -, -, texts, -, strict_eq, -⟩ := runWith_verdict known ran
      obtain ⟨output, errors, written, streams⟩ := texts (by decide)
      rw [failed, if_neg Nat.one_ne_zero] at streams
      obtain ⟨output_eq, errors_eq⟩ := streams
      exact ⟨completion, reports, output, errors, known, rfl, failed, written, output_eq,
        ⟨_, errors_eq⟩, strict_eq true false⟩

end CommandLine

end BundleLint
