import BundleLint.Proofs.CommandLine.Resolution

/-!
# Several files at once

To name several files on one command line is to run the program on each of them. What it shows of
two lists of files together is made of what it shows of each list, and the report about a file
depends neither on the other files nor on their order.
-/

namespace BundleLint

/-! ## Reports of two lists together -/

/-- The sums over two lists of reports together. -/
def Summary.plus (first second : Summary) : Summary :=
  { total := first.total + second.total
    passed := first.passed + second.passed
    failed := first.failed + second.failed
    errors := first.errors + second.errors
    warnings := first.warnings + second.warnings }

theorem Summary.of_append (first second : List Report) :
    Summary.of (first ++ second) = (Summary.of first).plus (Summary.of second) := by
  have first_le := List.length_filter_le (fun report : Report => !report.passed) first
  have second_le := List.length_filter_le (fun report : Report => !report.passed) second
  have sum_append (front back : List Nat) :
      (front ++ back).foldr (· + ·) 0 = front.foldr (· + ·) 0 + back.foldr (· + ·) 0 :=
    List.sum_append
  simp only [Summary.of, plus, List.length_append, List.filter_append, List.map_append,
    sum_append, Summary.mk.injEq, true_and, and_true]
  omega

/-- The word for the verdict on all reports that are summed up. -/
def Summary.status (sums : Summary) : String :=
  Report.verdict (sums.failed == 0)

theorem Summary.status_plus (first second : Summary) :
    (first.plus second).status = "FAILED" ↔ first.status = "FAILED" ∨ second.status = "FAILED" := by
  have failed_iff (sums : Summary) : sums.status = "FAILED" ↔ sums.failed ≠ 0 := by
    unfold status Report.verdict
    split <;> simp_all
  have failed_eq : (first.plus second).failed = first.failed + second.failed := rfl
  rw [failed_iff, failed_iff, failed_iff, failed_eq]
  omega

namespace CommandLine

/-- Whether a report makes the exit code that of a failure. -/
def fails (strict : Bool) (report : Report) : Bool :=
  report.hasErrors || (strict && !report.warnings.isEmpty)

theorem exitCode_eq_fails (strict : Bool) (reports : List Report) :
    exitCode strict reports = if reports.any (fails strict) then 1 else 0 := by
  have any_fails : reports.any (fails strict) =
      (reports.any (·.hasErrors) ||
        (strict && reports.any fun report => !report.warnings.isEmpty)) := by
    induction reports with
    | nil => simp
    | cons report reports ih =>
        rw [List.any_cons, ih, fails]
        cases strict <;> simp [Bool.or_assoc, Bool.or_left_comm]
  rw [any_fails, exitCode]
  cases reports.any (·.hasErrors) with
  | true => rfl
  | false => rfl

theorem exitCode_le_one (strict : Bool) (reports : List Report) : exitCode strict reports ≤ 1 := by
  rw [exitCode_eq_fails]
  split <;> decide

theorem exitCode_append (strict : Bool) (first second : List Report) :
    exitCode strict (first ++ second) =
      max (exitCode strict first) (exitCode strict second) := by
  simp only [exitCode_eq_fails, List.any_append]
  cases first.any (fails strict) <;> cases second.any (fails strict) <;> rfl

theorem Written.append {first second : List Report} {output errors laterOutput laterErrors : String}
    (front : Written first output errors) (back : Written second laterOutput laterErrors) :
    Written (first ++ second) (output ++ laterOutput) (errors ++ laterErrors) := by
  induction front with
  | none => simpa using back
  | passed passes _ ih =>
      rw [List.cons_append, String.append_assoc]
      exact .passed passes ih
  | failed fails _ ih =>
      rw [List.cons_append, String.append_assoc]
      exact .failed fails ih

/-- Reports have one text on each stream. -/
theorem Written.unique {reports : List Report} {output errors otherOutput otherErrors : String}
    (one : Written reports output errors) (other : Written reports otherOutput otherErrors) :
    output = otherOutput ∧ errors = otherErrors := by
  induction one generalizing otherOutput otherErrors with
  | none =>
      cases other
      exact ⟨rfl, rfl⟩
  | passed passes _ ih =>
      cases other with
      | passed _ others =>
          obtain ⟨rfl, rfl⟩ := ih others
          exact ⟨rfl, rfl⟩
      | failed fails _ => exact absurd (passes.symm.trans fails) (by decide)
  | failed fails _ ih =>
      cases other with
      | passed passes _ => exact absurd (passes.symm.trans fails) (by decide)
      | failed _ others =>
          obtain ⟨rfl, rfl⟩ := ih others
          exact ⟨rfl, rfl⟩

/-! ## What a completion shows -/

/-- The output is a document with the given reports and their sums. -/
def Completion.Documents (completion : Completion) (reports : List Json) (sums : Summary) : Prop :=
  completion.errors = "" ∧
    ∃ document summary : Json, completion.output = document.pretty ++ "\n" ∧
      document.member? "reports" = some (.array reports) ∧
      document.member? "summary" = some summary ∧
      summary.member? "status" = some (.string sums.status) ∧
      summary.member? "total" = some (.number sums.total) ∧
      summary.member? "passed" = some (.number sums.passed) ∧
      summary.member? "failed" = some (.number sums.failed) ∧
      summary.member? "errors" = some (.number sums.errors) ∧
      summary.member? "warnings" = some (.number sums.warnings)

/-- The streams hold the texts of reports, and after these a closing line: that of success on the
output if every report passed, that of failure on the errors otherwise. -/
structure Completion.Texts (completion : Completion) (reports : List Report)
    (output errors : String) : Prop where
  /-- Every report is written once. -/
  written : Written reports output errors
  /-- The closing line follows. -/
  closed :
    if ∀ report ∈ reports, report.passed = true then
      completion.output =
          output ++ ("\nBundle validation PASSED (" ++ toString reports.length ++ " files).\n") ∧
        completion.errors = errors
    else
      completion.output = output ∧
        completion.errors =
          errors ++
            ("\nBundle validation FAILED (" ++
              toString (reports.countP fun report => !report.passed) ++ " of " ++
                toString reports.length ++ " files).\n")

theorem showJson_documents (strict : Bool) (time : String) (reports : List Report)
    (warnings : List String) :
    ({ showJson strict time reports with warnings } : Completion).Documents
      (reports.map Report.json) (Summary.of reports) := by
  refine ⟨rfl, reportsJson time reports, (Summary.of reports).json, rfl, ?_⟩
  simp [reportsJson, Summary.json, Json.member?, Summary.status]

/-- The texts of two lists of reports together are those of the first list and then those of the
second one, on each stream. -/
theorem showTexts_append (strict : Bool) (first second : List Report) (warnings : List String) :
    ∃ output errors laterOutput laterErrors,
      ({ showTexts strict first with warnings } : Completion).Texts first output errors ∧
        ({ showTexts strict second with warnings } : Completion).Texts second laterOutput
          laterErrors ∧
        ({ showTexts strict (first ++ second) with warnings } : Completion).Texts (first ++ second)
          (output ++ laterOutput) (errors ++ laterErrors) := by
  obtain ⟨output, errors, front, front_closed⟩ := showTexts_written strict first
  obtain ⟨laterOutput, laterErrors, back, back_closed⟩ := showTexts_written strict second
  obtain ⟨_, _, both, both_closed⟩ := showTexts_written strict (first ++ second)
  obtain ⟨rfl, rfl⟩ := both.unique (front.append back)
  exact ⟨output, errors, laterOutput, laterErrors, ⟨front, front_closed⟩, ⟨back, back_closed⟩,
    ⟨both, both_closed⟩⟩

/-! ## Runs -/

section

variable {world : World} {time : String} {extend : Suite → Suite} {arguments : Arguments}
  {loaded : Settings.Loaded} {paths words : List String} {completion : Completion}

/-- A path has a report in a run that is asked for with loaded settings. -/
def Reported (world : World) (extend : Suite → Suite) (arguments : Arguments)
    (loaded : Settings.Loaded) (path : String) (report : Report) : Prop :=
  (extend (.standard (loaded.settings.disabledChecks ++ arguments.skipped))).run world.files
    (arguments.mode.getD loaded.settings.mode) (.ofText path) = .ok report

/-- The reports as they are shown in a run that is asked for with loaded settings. -/
def display (arguments : Arguments) (loaded : Settings.Loaded) (time : String)
    (reports : List Report) : Completion :=
  { (if arguments.json = true ∨ loaded.settings.format = .json then
      showJson (arguments.strict || loaded.settings.strict) time reports
    else showTexts (arguments.strict || loaded.settings.strict) reports) with
    warnings := loaded.warnings }

theorem display_exitCode (reports : List Report) :
    (display arguments loaded time reports).exitCode =
      exitCode (arguments.strict || loaded.settings.strict) reports := by
  unfold display
  split <;> rfl

/-- A run ends without a look at its paths, or it shows a report about each of them. -/
theorem execute_cases (asks : readArguments words = .ok (.run { arguments with paths := paths }))
    (ends : execute world time extend words = .ok completion) :
    (completion.exitCode = 2 ∧ completion.output = "" ∧
        ∀ others words later,
          readArguments words = .ok (.run { arguments with paths := others }) →
            execute world later extend words = .ok completion) ∨
      ∃ loaded reports, Settings.load world = .ok loaded ∧ arguments.hasNameless = false ∧
        (∀ name ∈ loaded.settings.disabledChecks ++ arguments.skipped, name ∈ checkNames) ∧
        List.Forall₂ (Reported world extend arguments loaded) paths reports ∧
        completion = display arguments loaded time reports := by
  cases loads : Settings.load world with
  | error fault =>
      -- Only wrong settings are told, and they are told before any path is taken.
      cases fault with
      | configuration wrong =>
          rw [execute_of_configuration asks loads] at ends
          cases ends
          exact .inl ⟨rfl, rfl, fun _ _ _ asks => execute_of_configuration asks loads⟩
      | _ =>
          simp only [execute, asks, loads] at ends
          cases ends
  | ok loaded =>
      rw [execute_of_loads asks loads, map_eq_ok_iff] at ends
      obtain ⟨own, ran, rfl⟩ := ends
      have named : arguments.hasNameless = false := by
        cases nameless : arguments.hasNameless with
        | false => rfl
        | true =>
            rw [runWith_of_nameless (by exact nameless)] at ran
            cases ran
      by_cases known : unknownNames (plan arguments loaded.settings).skipped = []
      · obtain ⟨-, reports, each, rfl⟩ := (runWith_eq_ok_iff (by exact known)).mp ran
        rw [shown_plan]
        exact .inr ⟨loaded, reports, rfl, named, unknownNames_eq_nil_iff.mp known,
          mapM_eq_ok_iff.mp each, rfl⟩
      · rw [runWith_of_unknown (by exact named) (by exact known)] at ran
        cases ran
        refine .inl ⟨rfl, rfl, ?_⟩
        intro others words later asks
        rw [execute_of_loads asks loads, runWith_of_unknown (by exact named) (by exact known)]
        rfl

/-- Paths of which each has a report are shown with all of their reports. -/
theorem execute_of_reported {reports : List Report}
    (asks : readArguments words = .ok (.run { arguments with paths := paths }))
    (loads : Settings.load world = .ok loaded) (named : arguments.hasNameless = false)
    (known : ∀ name ∈ loaded.settings.disabledChecks ++ arguments.skipped, name ∈ checkNames)
    (each : List.Forall₂ (Reported world extend arguments loaded) paths reports) :
    execute world time extend words = .ok (display arguments loaded time reports) := by
  rw [execute_of_loads asks loads, map_eq_ok_iff]
  refine ⟨shown (plan { arguments with paths := paths } loaded.settings) time reports, ?_, ?_⟩
  · rw [runWith_eq_ok_iff (by exact unknownNames_eq_nil_iff.mpr known)]
    exact ⟨named, reports, mapM_eq_ok_iff.mpr each, rfl⟩
  · rw [shown_plan]
    rfl

/-- A document of two lists of reports together has the items of both and their sums. -/
theorem display_documents (wants_json : arguments.json = true ∨ loaded.settings.format = .json)
    (time : String) (reports : List Report) :
    (display arguments loaded time reports).Documents (reports.map Report.json)
      (Summary.of reports) := by
  rw [display, if_pos wants_json]
  exact showJson_documents _ time reports loaded.warnings

end

/-- Several files on one command line are validated one by one. If the program ends on two lists
of paths, it ends on both together, with the greater of the two exit codes. On wrong settings and
unknown names it ends in the same way whatever the paths are. Otherwise its document has the
reports of the first list and then those of the second one, and the sums of both; its streams have
the texts in the same order; and any choice of these paths, in any order, is shown with the reports
that the paths have here. -/
theorem execute_append {world : World} {extend : Suite → Suite} (arguments : Arguments)
    {paths others firstWords secondWords bothWords : List String}
    {firstTime secondTime : String} {first second : Completion}
    (first_asks : readArguments firstWords = .ok (.run { arguments with paths := paths }))
    (second_asks : readArguments secondWords = .ok (.run { arguments with paths := others }))
    (both_ask :
      readArguments bothWords = .ok (.run { arguments with paths := paths ++ others }))
    (first_ends : execute world firstTime extend firstWords = .ok first)
    (second_ends : execute world secondTime extend secondWords = .ok second) (time : String) :
    ∃ both, execute world time extend bothWords = .ok both ∧
      both.exitCode = max first.exitCode second.exitCode ∧
      (both.exitCode = 2 → both.output = "" ∧ first = both ∧ second = both) ∧
      (both.exitCode ≠ 2 →
        ∃ loaded firstReports secondReports, Settings.load world = .ok loaded ∧
          List.Forall₂ (Reported world extend arguments loaded) paths firstReports ∧
          List.Forall₂ (Reported world extend arguments loaded) others secondReports ∧
          (arguments.json = true ∨ loaded.settings.format = .json →
            ∃ firstSums secondSums : Summary,
              first.Documents (firstReports.map Report.json) firstSums ∧
                second.Documents (secondReports.map Report.json) secondSums ∧
                both.Documents (firstReports.map Report.json ++ secondReports.map Report.json)
                  (firstSums.plus secondSums) ∧
                ((firstSums.plus secondSums).status = "FAILED" ↔
                  firstSums.status = "FAILED" ∨ secondSums.status = "FAILED")) ∧
          (¬(arguments.json = true ∨ loaded.settings.format = .json) →
            ∃ output errors laterOutput laterErrors,
              first.Texts firstReports output errors ∧
                second.Texts secondReports laterOutput laterErrors ∧
                both.Texts (firstReports ++ secondReports) (output ++ laterOutput)
                  (errors ++ laterErrors)) ∧
          ∀ chosen words later, (∀ path ∈ chosen, path ∈ paths ++ others) →
            readArguments words = .ok (.run { arguments with paths := chosen }) →
              ∃ reports, List.Forall₂ (Reported world extend arguments loaded) chosen reports ∧
                execute world later extend words =
                  .ok (display arguments loaded later reports)) := by
  rcases execute_cases first_asks first_ends with
    ⟨fatal, silent, same⟩ | ⟨loaded, firstReports, loads, named, known, firstEach, rfl⟩
  · obtain rfl : first = second :=
      Except.ok.inj ((same others secondWords secondTime second_asks).symm.trans second_ends)
    refine ⟨first, same _ _ time both_ask, (max_self _).symm, fun _ => ⟨silent, rfl, rfl⟩, ?_⟩
    intro shows
    exact absurd fatal shows
  · have not_fatal (time : String) (reports : List Report) :
        (display arguments loaded time reports).exitCode ≠ 2 := by
      have at_most_one := exitCode_le_one (arguments.strict || loaded.settings.strict) reports
      rw [display_exitCode]
      omega
    rcases execute_cases second_asks second_ends with
      ⟨fatal, -, same⟩ | ⟨_, secondReports, again, -, -, secondEach, rfl⟩
    · obtain rfl := Except.ok.inj ((same _ _ firstTime first_asks).symm.trans first_ends)
      exact absurd fatal (not_fatal firstTime firstReports)
    · obtain rfl := Except.ok.inj (again.symm.trans loads)
      have each := List.rel_append firstEach secondEach
      refine ⟨_, execute_of_reported both_ask loads named known each, ?_, ?_, ?_⟩
      · simp only [display_exitCode, exitCode_append]
      · intro fatal
        exact absurd fatal (not_fatal time _)
      · intro _
        refine ⟨_, firstReports, secondReports, loads, firstEach, secondEach, ?_, ?_, ?_⟩
        · intro wants_json
          refine ⟨_, _, display_documents wants_json _ firstReports,
            display_documents wants_json _ secondReports, ?_, Summary.status_plus _ _⟩
          rw [← Summary.of_append, ← List.map_append]
          exact display_documents wants_json time _
        · intro wants_text
          simp only [display, if_neg wants_text]
          exact showTexts_append _ firstReports secondReports _
        · intro chosen words later subset asks
          obtain ⟨reports, chosenEach⟩ := exists_forall₂ fun path member =>
            let ⟨report, _, reported⟩ := exists_of_forall₂ each (subset path member)
            ⟨report, reported⟩
          exact ⟨reports, chosenEach, execute_of_reported asks loads named known chosenEach⟩

/-- What a command line with a flag and some paths asks for. -/
theorem json_request :
    readArguments ["--json", "a.md"] =
        .ok (.run { Progress.initial.arguments with paths := ["a.md"], json := true }) ∧
      readArguments ["--json", "b.md"] =
        .ok (.run { Progress.initial.arguments with paths := ["b.md"], json := true }) ∧
      readArguments ["--json", "a.md", "b.md"] =
        .ok (.run { Progress.initial.arguments with paths := ["a.md", "b.md"], json := true }) := by
  decide +kernel

theorem execute_append_missing :
    ∃ first second both items others sums laterSums,
      execute namedWorld "" id ["--json", "a.md"] = .ok first ∧
        execute namedWorld "" id ["--json", "b.md"] = .ok second ∧
        execute namedWorld "" id ["--json", "a.md", "b.md"] = .ok both ∧
        first.exitCode = 0 ∧ second.exitCode = 1 ∧ both.exitCode = 1 ∧
        first.Documents items sums ∧ second.Documents others laterSums ∧
        both.Documents (items ++ others) (sums.plus laterSums) := by
  have first_code :
      (execute namedWorld "" id ["--json", "a.md"]).toOption.map (·.exitCode) = some 0 := by
    decide +kernel
  have second_code :
      (execute namedWorld "" id ["--json", "b.md"]).toOption.map (·.exitCode) = some 1 := by
    decide +kernel
  cases first_ends : execute namedWorld "" id ["--json", "a.md"] with
  | error crash =>
      rw [first_ends] at first_code
      cases first_code
  | ok first =>
      cases second_ends : execute namedWorld "" id ["--json", "b.md"] with
      | error crash =>
          rw [second_ends] at second_code
          cases second_code
      | ok second =>
          rw [first_ends] at first_code
          rw [second_ends] at second_code
          have passes : first.exitCode = 0 := Option.some.inj first_code
          have fails : second.exitCode = 1 := Option.some.inj second_code
          obtain ⟨first_asks, second_asks, both_ask⟩ := json_request
          obtain ⟨both, both_ends, code_eq, -, shows⟩ :=
            execute_append { Progress.initial.arguments with json := true } first_asks second_asks
              both_ask first_ends second_ends ""
          have both_code : both.exitCode = 1 := by rw [code_eq, passes, fails]; rfl
          obtain ⟨loaded, firstReports, secondReports, -, -, -, documents, -⟩ :=
            shows (by rw [both_code]; decide)
          obtain ⟨sums, laterSums, front, back, together, -⟩ := documents (.inl rfl)
          exact ⟨first, second, both, _, _, sums, laterSums, rfl, rfl, both_ends, passes, fails,
            both_code, front, back, together⟩

end CommandLine

end BundleLint
