import BundleLint.Proofs.Check.Defect
import BundleLint.Proofs.Outcome
import BundleLint.Proofs.Path
import BundleLint.Proofs.Suite.Ending

/-!
# Attribution of issues

Every issue of the built-in checks is an error about the file of its report, and its code tells who
found it: the run itself before any check, or one of the checks that ran. No two issues of a report
are the same, and the path that a report shows leads to the same report again.
-/

namespace BundleLint

/-- Codes of the issues that end a run before any check. -/
def earlyCodes : List String := ["FILE_NOT_FOUND", "FILE_READ_ERROR", "YAML_SYNTAX"]

/-- An issue has a code of a check, or it is the error that names the check for its failure. -/
inductive Issue.BelongsTo (issue : Issue) (check : BuiltInCheck) : Prop
  | found (known : issue.code ∈ check.codes)
  | failed (code_eq : issue.code = "CHECK_INTERNAL_ERROR")
      (named : ∃ rest, issue.message = "check '" ++ check.name ++ "' raised " ++ rest)

/-- An issue that is well attributed in a report. -/
structure Issue.IsAttributed (report : Report) (issue : Issue) : Prop where
  /-- It is an error. -/
  severity : issue.severity = .error
  /-- It is about the file of the report. -/
  filePath : issue.filePath = some report.path.text
  /-- Only the issue about a wrong front matter can tell a line. -/
  line : issue.code ≠ "YAML_SYNTAX" → issue.line = none
  /-- If its code ends a run, no check has run. -/
  early : issue.code ∈ earlyCodes → report.checksRun = []
  /-- Otherwise it belongs to a check that has run. -/
  owned : issue.code ∉ earlyCodes →
    ∃ check : BuiltInCheck, check.name ∈ report.checksRun ∧ issue.BelongsTo check

/-- There is one issue about the name of a bundle at most. -/
theorem BuiltIn.nameIssues_alone_or_silent (config : Mapping) (path : Path) :
    nameIssues config path = [] ∨ ∃ issue, nameIssues config path = [issue] := by
  unfold nameIssues
  split
  · exact .inr ⟨_, rfl⟩
  · split
    · exact .inr ⟨_, rfl⟩
    · split
      · exact .inl rfl
      · exact .inr ⟨_, rfl⟩

namespace BuiltInCheck

variable {check other : BuiltInCheck} {bundle : Bundle} {issue later : Issue}

theorem belongsTo_of_mem_block (member : issue ∈ check.named.block bundle) :
    issue.BelongsTo check := by
  rcases check.block_cases bundle with ⟨-, -, known⟩ | ⟨-, block_eq⟩
  · exact .found (known issue member)
  · rw [block_eq] at member
    obtain rfl := List.mem_singleton.mp member
    exact .failed rfl ⟨"ValueError" ++ (": " ++ Number.unwritableMessage), by
      simp only [internalError, String.append_assoc]⟩

/-- No check has a code that ends a run. -/
theorem not_mem_earlyCodes (belongs : issue.BelongsTo check) : issue.code ∉ earlyCodes := by
  have codes_late : ∀ code ∈ check.codes, code ∉ earlyCodes := by
    cases check <;> decide
  cases belongs with
  | found known => exact codes_late issue.code known
  | failed code_eq =>
      rw [code_eq]
      decide

/-- Issues of two checks have different codes, because one check at most breaks off. -/
theorem code_ne_of_mem_blocks (apart : check ≠ other) (member : issue ∈ check.named.block bundle)
    (other_member : later ∈ other.named.block bundle) : issue.code ≠ later.code := by
  intro same
  rcases check.block_cases bundle with ⟨-, -, known⟩ | ⟨breaks, block_eq⟩
  · have own := known issue member
    rcases other.block_cases bundle with ⟨-, -, other_known⟩ | ⟨-, other_block_eq⟩
    · have foreign := other_known later other_member
      rw [← same] at foreign
      exact apart (check.codes_disjoint other issue.code own foreign)
    · rw [other_block_eq] at other_member
      obtain rfl := List.mem_singleton.mp other_member
      rw [same] at own
      exact check.internalError_not_mem_codes own
  · rcases other.block_cases bundle with ⟨-, -, other_known⟩ | ⟨other_breaks, -⟩
    · have foreign := other_known later other_member
      rw [block_eq] at member
      obtain rfl := List.mem_singleton.mp member
      rw [← same] at foreign
      exact other.internalError_not_mem_codes foreign
    · exact apart (breaks.1.trans other_breaks.1.symm)

/-- No two issues of one check are the same: messages about the lists of modules begin with
different places, and every other check gives one issue at most. -/
theorem block_identities_nodup (check : BuiltInCheck) (bundle : Bundle) :
    ((check.named.block bundle).map Issue.identity).Nodup := by
  rcases check.block_cases bundle with ⟨-, given, -⟩ | ⟨-, block_eq⟩
  · by_cases agent : bundle.config.Has "meta"
    · rw [check.run_of_agent agent] at given
      rw [← Outcome.issues.inj given]
      exact List.nodup_nil
    · cases check with
      | frontMatterSyntax => exact List.nodup_nil
      | requiredFields =>
          rw [run, BuiltIn.requiredFields_of_bundle agent] at given
          rw [← Outcome.issues.inj given]
          rcases BuiltIn.nameIssues_alone_or_silent bundle.config bundle.path with
            silent | ⟨issue, alone⟩
          · rw [silent]
            exact List.nodup_nil
          · rw [alone]
            exact List.nodup_singleton _
      | moduleLists =>
          have found_eq := (BuiltIn.moduleLists_eq_issues_iff agent).mp given
          have distinct := BuiltIn.sectionsIssues?_distinct found_eq
          -- The code and the place are read off what tells an issue from others.
          refine List.Nodup.of_map
            (fun identity : Issue.Identity => (identity.code, Place.ofMessage? identity.message)) ?_
          rwa [List.map_map]
  · rw [block_eq]
    exact List.nodup_singleton _

end BuiltInCheck

namespace Suite

variable {skipped : List String} {mode : CheckMode} {bundle : Bundle}

theorem standard_identities_nodup :
    (((standard skipped).survey mode bundle).issues.map Issue.identity).Nodup := by
  rw [survey, standard_checks_skipping, List.flatMap_map]
  dsimp only
  rw [List.map_flatMap, List.nodup_flatMap]
  refine ⟨fun check _ => check.block_identities_nodup bundle, ?_⟩
  have apart : (BuiltInCheck.all.filter fun check => !skipped.contains check.name).Nodup :=
    List.Nodup.filter _ (by decide)
  refine apart.imp ?_
  intro check other ne identity member other_member
  obtain ⟨issue, found, identity_eq⟩ := List.mem_map.mp member
  obtain ⟨later, other_found, rfl⟩ := List.mem_map.mp other_member
  exact BuiltInCheck.code_ne_of_mem_blocks ne found other_found
    (congrArg Issue.Identity.code identity_eq)

/-- Every issue about an inspected bundle belongs to a check that has run. -/
theorem standard_survey_attributes :
    ∀ issue ∈ ((standard skipped).survey mode bundle).issues,
      issue.IsAttributed ((standard skipped).survey mode bundle) := by
  intro issue member
  obtain ⟨check, runs, here⟩ := mem_standard_issues.mp member
  obtain ⟨severe, about, no_line⟩ := (check.block_judges bundle).all_errors _ rfl issue here
  have belongs := BuiltInCheck.belongsTo_of_mem_block here
  have named : check.name ∈ ((standard skipped).survey mode bundle).checksRun := by
    rw [survey, standard_checks_skipping]
    simpa using ⟨check, ⟨check.mem_all, runs⟩, rfl⟩
  exact
    { severity := severe
      filePath := about
      line := fun _ => no_line
      early := fun known => absurd known (BuiltInCheck.not_mem_earlyCodes belongs)
      owned := fun _ => ⟨check, named, belongs⟩ }

/-- The issue that ends a run before any check is well attributed. -/
theorem start_attributes {path : Path} {code message hint : String} {line : Option Nat}
    (early : code ∈ earlyCodes) (placed : code ≠ "YAML_SYNTAX" → line = none) :
    ∀ issue ∈ ((Report.start path mode).add (earlyError path code message line hint)).issues,
      issue.IsAttributed
        ((Report.start path mode).add (earlyError path code message line hint)) := by
  intro issue member
  obtain rfl := List.mem_singleton.mp member
  exact
    { severity := rfl
      filePath := rfl
      line := placed
      early := fun _ => rfl
      owned := fun late => absurd early late }

/-- A run that ends before the checks has one issue, and no line unless the front matter is
wrong. -/
theorem report_of_early {ending : Ending} {code : String} (coded : ending.code? = some code)
    (suite : Suite) (mode : CheckMode) (path : Path) :
    ∃ message line hint, code ∈ earlyCodes ∧ (code ≠ "YAML_SYNTAX" → line = none) ∧
      ending.report suite mode path =
        (Report.start path mode).add (earlyError path code message line hint) := by
  cases ending with
  | missing =>
      cases coded
      exact ⟨_, none, _, by decide, fun _ => rfl, rfl⟩
  | unreadable fault =>
      cases coded
      exact ⟨_, none, _, by decide, fun _ => rfl, rfl⟩
  | rejected rejection =>
      cases coded
      obtain ⟨message, line, issue_eq⟩ := syntaxIssue_eq_earlyError path rejection
      exact ⟨message, line, _, by decide, fun other => absurd rfl other,
        by rw [Ending.report, issue_eq]⟩
  | inspected bundle => cases coded

/-- However a run of the built-in checks on a path ends, the issues of its report are well
attributed and told apart, and the report is about the path. -/
theorem standard_report_attributes {files : Files} {path : Path} {ending : Ending}
    (ends : EndsAs files path ending) :
    (∀ issue ∈ (ending.report (standard skipped) mode path).issues,
      issue.IsAttributed (ending.report (standard skipped) mode path)) ∧
      ((ending.report (standard skipped) mode path).issues.map Issue.identity).Nodup ∧
      (ending.report (standard skipped) mode path).path = path := by
  cases coded : ending.code? with
  | some code =>
      obtain ⟨message, line, hint, early, placed, report_eq⟩ :=
        report_of_early coded (standard skipped) mode path
      rw [report_eq]
      exact ⟨start_attributes early placed, List.nodup_singleton _, rfl⟩
  | none =>
      obtain ⟨bundle, rfl⟩ := Ending.code?_eq_none_iff.mp coded
      refine ⟨standard_survey_attributes, standard_identities_nodup, ?_⟩
      cases ends with
      | inspected holds parted => rfl

/-- A report of the built-in checks is well attributed: each issue is an error about the file of
the report, with a line only if the front matter is wrong, and it ended the run or belongs to a
check that has run. No two issues have the same code, file, line and message, and a run on the text
of the path that the report shows gives the report again. -/
theorem standard_attributes {files : Files} {given : String} {report : Report}
    (ran : (standard skipped).run files mode (.ofText given) = .ok report) :
    (∀ issue ∈ report.issues, issue.IsAttributed report) ∧
      (report.issues.map Issue.identity).Nodup ∧
      report.path = .ofText given ∧
      (standard skipped).run files mode (.ofText report.path.text) = .ok report := by
  obtain ⟨ending, ends, -, rfl⟩ := run_eq_ok_iff.mp ran
  obtain ⟨attributed, distinct, path_eq⟩ := standard_report_attributes ends
  refine ⟨attributed, distinct, path_eq, ?_⟩
  rw [path_eq, Path.ofText_text_ofText]
  exact ran

/-- A bundle without a name and with two entries that are the same wrong text. -/
def wrongEntriesText : String := "---\nbundle: \x7b\x7d\ntools:\n- y\n- y\n---\n"

theorem standard_attributes_wrong_entries : ∃ report,
    (standard ["frontmatter_syntax"]).run (fun _ => .file wrongEntriesText.toUTF8.toList)
        .comprehensive (.ofText "./x//b.md") = .ok report ∧
      report.checksRun = ["required_fields", "module_list_format"] ∧
      report.issues.map (·.code) =
        ["MISSING_BUNDLE_NAME", "INVALID_MODULE_FORMAT", "INVALID_MODULE_FORMAT"] ∧
      report.path.text = "x/b.md" ∧
      (∀ issue ∈ report.issues, issue.IsAttributed report) ∧
      (report.issues.map Issue.identity).Nodup ∧
      (standard ["frontmatter_syntax"]).run (fun _ => .file wrongEntriesText.toUTF8.toList)
        .comprehensive (.ofText report.path.text) = .ok report := by
  have runs :
      ((standard ["frontmatter_syntax"]).run (fun _ => .file wrongEntriesText.toUTF8.toList)
          .comprehensive (.ofText "./x//b.md")).toOption.map
        (fun report => (report.checksRun, report.issues.map (·.code), report.path.text)) =
      some (["required_fields", "module_list_format"],
        ["MISSING_BUNDLE_NAME", "INVALID_MODULE_FORMAT", "INVALID_MODULE_FORMAT"],
        "x/b.md") := by
    decide +kernel
  obtain ⟨report, ran, seen⟩ := toOption_map_eq_some_iff.mp runs
  simp only [Prod.mk.injEq] at seen
  obtain ⟨ran_checks, codes, shown⟩ := seen
  obtain ⟨attributed, distinct, -, again⟩ := standard_attributes ran
  exact ⟨report, ran, ran_checks, codes, shown, attributed, distinct, again⟩

end Suite

end BundleLint
