import BundleLint.Proofs.CommandLine.Verdict

/-!
# Views of a report

The errors, the warnings and the suggestions of a report deal its issues out by severity, whatever
was added to the report before. The summary of several reports counts what the documents of these
reports say, so it tells of failures exactly if it counts errors.
-/

namespace BundleLint

/-! ## Additions -/

/-- A call that adds to a report. -/
inductive Addition where
  /-- One issue. -/
  | add (issue : Issue)
  /-- Several issues, in order. -/
  | extend (issues : List Issue)

namespace Addition

/-- The issues that a call adds. -/
def issues : Addition → List Issue
  | .add issue => [issue]
  | .extend issues => issues

/-- The report after a call. -/
def apply (report : Report) : Addition → Report
  | .add issue => report.add issue
  | .extend issues => report.extend issues

theorem apply_eq (report : Report) (addition : Addition) :
    addition.apply report = { report with issues := report.issues ++ addition.issues } := by
  cases addition <;> rfl

end Addition

namespace Report

/-- The report after several calls. -/
def after (report : Report) (additions : List Addition) : Report :=
  additions.foldl Addition.apply report

/-- Calls add their issues in order and leave everything else as it was. -/
theorem after_eq (report : Report) (additions : List Addition) :
    report.after additions =
      { report with issues := report.issues ++ additions.flatMap Addition.issues } := by
  induction additions generalizing report with
  | nil => simp [after]
  | cons addition additions ih =>
      have later := ih (addition.apply report)
      rw [Addition.apply_eq] at later
      rw [after, List.foldl_cons, Addition.apply_eq, ← after, later]
      simp

end Report

/-! ## Views -/

/-- Issues dealt out: each stands in the list of its severity, before those that come after it. -/
inductive DealtOut : List Issue → (Severity → List Issue) → Prop
  | nil : DealtOut [] fun _ => []
  | cons {issues : List Issue} {views : Severity → List Issue} (issue : Issue)
      (rest : DealtOut issues views) :
      DealtOut (issue :: issues)
        (Function.update views issue.severity (issue :: views issue.severity))

namespace DealtOut

variable {issues : List Issue} {views : Severity → List Issue}

theorem mem_iff (dealt : DealtOut issues views) {issue : Issue} {severity : Severity} :
    issue ∈ views severity ↔ issue ∈ issues ∧ issue.severity = severity := by
  induction dealt with
  | nil => simp
  | cons first rest ih =>
      by_cases own : severity = first.severity
      · subst own
        rw [Function.update_self, List.mem_cons, List.mem_cons, ih]
        constructor
        · rintro (rfl | ⟨later, same⟩)
          · exact ⟨.inl rfl, rfl⟩
          · exact ⟨.inr later, same⟩
        · rintro ⟨rfl | later, same⟩
          · exact .inl rfl
          · exact .inr ⟨later, same⟩
      · rw [Function.update_of_ne own, ih, List.mem_cons]
        constructor
        · rintro ⟨later, same⟩
          exact ⟨.inr later, same⟩
        · rintro ⟨rfl | later, same⟩
          · exact absurd same.symm own
          · exact ⟨later, same⟩

theorem sublist (dealt : DealtOut issues views) (severity : Severity) :
    (views severity).Sublist issues := by
  induction dealt with
  | nil => exact .slnil
  | cons first rest ih =>
      by_cases own : severity = first.severity
      · subst own
        rw [Function.update_self]
        exact ih.cons_cons first
      · rw [Function.update_of_ne own]
        exact ih.cons first

theorem length_eq (dealt : DealtOut issues views) :
    (views .error).length + (views .warning).length + (views .info).length = issues.length := by
  induction dealt with
  | nil => rfl
  | cons first rest ih =>
      cases first.severity <;> simp <;> omega

end DealtOut

namespace Report

/-- The issues of each severity. -/
def views (report : Report) : Severity → List Issue
  | .error => report.errors
  | .warning => report.warnings
  | .info => report.infos

theorem views_eq (report : Report) (severity : Severity) :
    report.views severity = report.issues.filter fun issue => issue.severity == severity := by
  cases severity <;> rfl

theorem dealtOut_views (report : Report) : DealtOut report.issues report.views := by
  have views_eq := funext report.views_eq
  rw [views_eq]
  induction report.issues with
  | nil => exact .nil
  | cons issue issues ih =>
      have dealt := DealtOut.cons issue ih
      convert dealt using 1
      funext severity
      by_cases own : severity = issue.severity
      · subst own
        simp
      · simp [Function.update_of_ne own, Ne.symm own]

theorem passed_eq_true_iff (report : Report) : report.passed = true ↔ report.errors = [] := by
  unfold passed hasErrors errors ofSeverity
  rw [List.filter_eq_nil_iff, Bool.not_eq_true', List.any_eq_false]
  rfl

/-- The views of a report part its issues, and it passes exactly if there is no error. -/
structure IsParted (report : Report) : Prop where
  /-- Each issue goes to the view of its severity, in its turn. -/
  dealt : DealtOut report.issues report.views
  /-- No issue is in two views or in none. -/
  exactly_one : ∀ issue ∈ report.issues, ∃! severity, issue ∈ report.views severity
  /-- A view keeps the order. -/
  in_order : ∀ severity, (report.views severity).Sublist report.issues
  /-- A view holds the issues of its severity only. -/
  own : ∀ severity, ∀ issue ∈ report.views severity, issue.severity = severity
  /-- The lengths of the views add up. -/
  lengths : report.errors.length + report.warnings.length + report.infos.length =
    report.issues.length
  /-- The verdict is that of the errors. -/
  passed_iff : report.passed = true ↔ report.errors = []

theorem isParted (report : Report) : report.IsParted := by
  have dealt := report.dealtOut_views
  refine
    { dealt
      exactly_one := ?_
      in_order := dealt.sublist
      own := fun severity issue member => (dealt.mem_iff.mp member).2
      lengths := dealt.length_eq
      passed_iff := report.passed_eq_true_iff }
  intro issue member
  refine ⟨issue.severity, dealt.mem_iff.mpr ⟨member, rfl⟩, ?_⟩
  intro severity viewed
  exact (dealt.mem_iff.mp viewed).2.symm

end Report

/-! ## Summaries -/

namespace Json

/-- The number at a member of an object. -/
def numberAt? (document : Json) (name : String) : Option Nat :=
  match document.member? name with
  | some (.number n) => some n
  | _ => none

/-- The truth value at a member of an object. -/
def flagAt? (document : Json) (name : String) : Option Bool :=
  match document.member? name with
  | some (.bool b) => some b
  | _ => none

/-- A number is the sum of the numbers that documents give at a member, which all of them have. -/
def SumsTo (documents : List Json) (name : String) (sum : Nat) : Prop :=
  ∃ counts : List Nat, documents.map (·.numberAt? name) = counts.map some ∧ counts.sum = sum

/-- A summary gives the sums over documents of reports. -/
structure SumsUp (summary : Json) (documents : List Json) (sums : Summary) : Prop where
  total : summary.numberAt? "total" = some sums.total
  passed : summary.numberAt? "passed" = some sums.passed
  failed : summary.numberAt? "failed" = some sums.failed
  errors : summary.numberAt? "errors" = some sums.errors
  warnings : summary.numberAt? "warnings" = some sums.warnings
  /-- Every document counts. -/
  total_eq : sums.total = documents.length
  /-- Every report passed or failed. -/
  total_parts : sums.total = sums.passed + sums.failed
  /-- Failed reports are those whose documents say so. -/
  failed_eq : sums.failed = documents.countP fun document => document.flagAt? "passed" == some false
  errors_eq : SumsTo documents "error_count" sums.errors
  warnings_eq : SumsTo documents "warning_count" sums.warnings
  /-- The word for the verdict tells of a failure. -/
  status_iff : summary.member? "status" = some (.string "FAILED") ↔ 0 < sums.failed
  /-- The only other word is that for success. -/
  status_else : ¬0 < sums.failed → summary.member? "status" = some (.string "PASSED")
  /-- Reports fail by errors only. -/
  failed_iff : 0 < sums.failed ↔ 0 < sums.errors

theorem sumsTo_of_reports (reports : List Report) {name : String} {count : Report → Nat}
    (counted : ∀ report : Report, report.json.numberAt? name = some (count report)) :
    SumsTo (reports.map Report.json) name (reports.map count).sum := by
  refine ⟨reports.map count, ?_, rfl⟩
  rw [List.map_map, List.map_map]
  exact List.map_congr_left fun report _ => counted report

end Json

namespace Summary

variable (reports : List Report)

theorem failed_eq_countP : (of reports).failed = reports.countP fun report => !report.passed :=
  List.countP_eq_length_filter.symm

theorem total_eq_add : (of reports).total = (of reports).passed + (of reports).failed := by
  have failed_le := List.length_filter_le (fun report : Report => !report.passed) reports
  simp only [of]
  omega

/-- Some report failed exactly if there is an error in one. -/
theorem failed_pos_iff : 0 < (of reports).failed ↔ 0 < (of reports).errors := by
  have errors_eq : (of reports).errors = (reports.map fun report => report.errors.length).sum := rfl
  rw [failed_eq_countP, errors_eq, List.countP_pos_iff, List.sum_pos_iff_exists_pos_nat]
  constructor
  · rintro ⟨report, member, failed⟩
    refine ⟨_, List.mem_map_of_mem member, ?_⟩
    rw [List.length_pos_iff]
    intro no_errors
    simp [report.passed_eq_true_iff.mpr no_errors] at failed
  · rintro ⟨count, member, positive⟩
    obtain ⟨report, here, rfl⟩ := List.mem_map.mp member
    refine ⟨report, here, ?_⟩
    have some_error := List.length_pos_iff.mp positive
    simpa using mt report.passed_eq_true_iff.mp some_error

/-- The word for the verdict follows the number of failed reports. -/
theorem status_eq (sums : Summary) :
    sums.json.member? "status" =
      some (.string (if 0 < sums.failed then "FAILED" else "PASSED")) := by
  have verdict_eq : Report.verdict (sums.failed == 0) =
      if 0 < sums.failed then "FAILED" else "PASSED" := by
    unfold Report.verdict
    cases sums.failed <;> rfl
  rw [← verdict_eq]
  rfl

theorem json_sumsUp : (of reports).json.SumsUp (reports.map Report.json) (of reports) :=
  { total := rfl
    passed := rfl
    failed := rfl
    errors := rfl
    warnings := rfl
    total_eq := (List.length_map ..).symm
    total_parts := total_eq_add reports
    failed_eq := by
      have told (report : Report) :
          (report.json.flagAt? "passed" == some false) = !report.passed := by
        change (some report.passed == some false) = _
        cases report.passed <;> rfl
      rw [failed_eq_countP, List.countP_map]
      exact List.countP_congr fun report _ => by rw [Function.comp_apply, told]
    errors_eq := Json.sumsTo_of_reports reports fun _ => rfl
    warnings_eq := Json.sumsTo_of_reports reports fun _ => rfl
    status_iff := by
      rw [status_eq]
      split
      · rename_i some_failed
        exact iff_of_true rfl some_failed
      · rename_i none_failed
        have words_ne : Text.ofString "PASSED" ≠ Text.ofString "FAILED" := by decide
        simp [Json.string, words_ne, none_failed]
    status_else := fun none_failed => by rw [status_eq, if_neg none_failed]
    failed_iff := failed_pos_iff reports }

end Summary

/-- How a report came about. -/
structure History where
  /-- The report in the beginning. -/
  start : Report
  /-- What was added, in order. -/
  additions : List Addition

/-- The report that came about. -/
def History.report (history : History) : Report :=
  history.start.after history.additions

/-- Whatever is added to a report, its issues are those it had and those that were added, in order,
nothing else in it changes, and its views part the issues. The summary of any reports that came
about in this way counts what their documents say. -/
theorem History.reports_add_up (history : History) (histories : List History) (time : String) :
    history.report =
        { history.start with
          issues := history.start.issues ++ history.additions.flatMap Addition.issues } ∧
      history.report.IsParted ∧
      ∃ summary documents sums,
        (reportsJson time (histories.map History.report)).member? "summary" = some summary ∧
          (reportsJson time (histories.map History.report)).member? "reports" =
            some (.array documents) ∧
          documents = histories.map (·.report.json) ∧
          summary.SumsUp documents sums := by
  have documents_eq : (histories.map History.report).map Report.json =
      histories.map (·.report.json) := by
    rw [List.map_map]
    rfl
  refine ⟨history.start.after_eq history.additions, history.report.isParted, ?_⟩
  exact ⟨_, _, _, rfl, rfl, documents_eq, Summary.json_sumsUp _⟩

end BundleLint
