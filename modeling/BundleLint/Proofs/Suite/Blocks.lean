import BundleLint.Proofs.Outcome
import BundleLint.Suite

/-!
# Reports as blocks

The issues of a run are one block for each check that runs, in the order of registration. A block
depends on its own check and on the bundle, so a failing check costs the others nothing, with one
exception: a check that fails with something that has no text breaks off the run.
-/

namespace BundleLint

/-- An outcome that is no list of issues, with the kind and the text of the exception that tells
it. -/
inductive Outcome.Fails : Outcome → String → String → Prop
  | raised {exception : Exception} {text : String} (told : exception.text = .ok text) :
      Fails (.raised exception) exception.kind text
  | notList (typeName : String) :
      Fails (.notList typeName) "TypeError" ("check returned " ++ typeName ++ ", expected list")

/-- An outcome that is an exception without a text, for the given reason. -/
inductive Outcome.Untold : Outcome → TextFault → Prop
  | raised {exception : Exception} {fault : TextFault} (no_text : exception.text = .error fault) :
      Untold (.raised exception) fault

namespace NamedCheck

variable (bundle : Bundle) (check : NamedCheck)

/-- What comes up instead of the text of the exception of a check. -/
def textFault? : Option TextFault :=
  match check.run bundle with
  | .raised exception =>
    match exception.text with
    | .error fault => some fault
    | .ok _ => none
  | _ => none

/-- The issues that a check adds to a report. -/
def block : List Issue :=
  match check.run bundle with
  | .issues issues => issues
  | .notList typeName =>
    ((notListException typeName).issue check.name bundle.path).toOption.toList
  | .raised exception => (exception.issue check.name bundle.path).toOption.toList

/-- The error that stands for the failure of a check names the check and the failure. -/
def failure (kind text : String) : Issue :=
  { severity := .error
    code := "CHECK_INTERNAL_ERROR"
    message := "check '" ++ check.name ++ "' raised " ++ kind ++ ": " ++ text
    filePath := some bundle.path.text
    line := none
    fixHint := some internalErrorHint }

variable {bundle check}

theorem textFault?_eq_some_iff {fault : TextFault} :
    check.textFault? bundle = some fault ↔ (check.run bundle).Untold fault := by
  unfold textFault?
  cases check.run bundle with
  | issues issues => exact iff_of_false nofun nofun
  | notList typeName => exact iff_of_false nofun nofun
  | raised exception =>
      cases text_eq : exception.text with
      | ok text =>
          refine iff_of_false ?_ ?_
          · simp [text_eq]
          · rintro ⟨no_text⟩
            rw [text_eq] at no_text
            cases no_text
      | error own =>
          simp only [text_eq, Option.some.injEq]
          constructor
          · rintro rfl
            exact .raised text_eq
          · rintro ⟨no_text⟩
            rw [text_eq] at no_text
            cases no_text
            rfl

theorem textFault?_eq_none_iff :
    check.textFault? bundle = none ↔ ∀ fault, ¬(check.run bundle).Untold fault := by
  simp only [Option.eq_none_iff_forall_ne_some, ne_eq, textFault?_eq_some_iff]

/-- A check adds exactly the list that it gives, or exactly one error about its failure, unless its
failure has no text. -/
theorem block_cases (bundle : Bundle) (check : NamedCheck) :
    (∃ issues, check.run bundle = .issues issues ∧ check.block bundle = issues) ∨
      (∃ kind text, (check.run bundle).Fails kind text ∧
        check.block bundle = [check.failure bundle kind text]) ∨
      ∃ fault, (check.run bundle).Untold fault := by
  unfold block
  cases check.run bundle with
  | issues issues => exact .inl ⟨issues, rfl, rfl⟩
  | notList typeName => exact .inr (.inl ⟨_, _, .notList typeName, rfl⟩)
  | raised exception =>
      cases text_eq : exception.text with
      | error fault => exact .inr (.inr ⟨fault, .raised text_eq⟩)
      | ok text =>
          refine .inr (.inl ⟨_, text, .raised text_eq, ?_⟩)
          simp [Exception.issue, text_eq, Except.map, Except.toOption, internalError, failure]

end NamedCheck

/-- The checks that run in a mode, in order. -/
def Suite.checks (suite : Suite) : CheckMode → List NamedCheck
  | .fast => suite.fast
  | .comprehensive => suite.fast ++ suite.slow

/-- A report with the names and the blocks of some checks after its own. -/
def Report.withChecks (bundle : Bundle) (report : Report) (checks : List NamedCheck) : Report :=
  { report with
    checksRun := report.checksRun ++ checks.map (·.name)
    issues := report.issues ++ checks.flatMap (·.block bundle) }

/-- One check appends its name and its block and leaves the rest of the report alone, or breaks off
the run. -/
theorem runCheck_eq (bundle : Bundle) (report : Report) (check : NamedCheck) :
    runCheck bundle report check =
      match check.textFault? bundle with
      | some fault => .error fault
      | none => .ok (report.withChecks bundle [check]) := by
  unfold runCheck NamedCheck.textFault? Report.withChecks NamedCheck.block
  cases run_eq : check.run bundle with
  | issues issues => simp [run_eq, Report.noteRun, Report.extend]
  | notList typeName =>
      simp [run_eq, Report.noteRun, Report.add, Exception.issue, notListException, Except.map,
        Except.toOption]
  | raised exception =>
      cases text_eq : exception.text <;>
        simp [run_eq, text_eq, Report.noteRun, Report.add, Exception.issue, Except.map,
          Except.toOption]

/-- Checks append their names and their blocks in order, up to the first one that breaks off the
run. -/
theorem runChecks_eq (bundle : Bundle) (report : Report) (checks : List NamedCheck) :
    runChecks bundle report checks =
      match checks.findSome? (·.textFault? bundle) with
      | some fault => .error fault
      | none => .ok (report.withChecks bundle checks) := by
  induction checks generalizing report with
  | nil => simp [runChecks, Report.withChecks, pure, Except.pure]
  | cons check checks ih =>
      have split_eq : runChecks bundle report (check :: checks) =
          runCheck bundle report check >>= fun noted => runChecks bundle noted checks := by
        simp [runChecks]
      rw [split_eq, runCheck_eq, List.findSome?_cons]
      cases check.textFault? bundle with
      | some fault => rfl
      | none =>
          refine (ih (report.withChecks bundle [check])).trans ?_
          simp [Report.withChecks, List.append_assoc]

theorem runChecks_append (bundle : Bundle) (report : Report) (front back : List NamedCheck) :
    runChecks bundle report (front ++ back) =
      runChecks bundle report front >>= fun checked => runChecks bundle checked back := by
  simp [runChecks]

namespace Suite

/-- The report about a bundle as the checks of a mode make it if none breaks off the run. -/
def survey (suite : Suite) (mode : CheckMode) (bundle : Bundle) : Report :=
  { path := bundle.path
    issues := (suite.checks mode).flatMap (·.block bundle)
    checksRun := (suite.checks mode).map (·.name)
    mode
    kind := some (classify bundle.config)
    durationMs := 0 }

/-- No check of a mode breaks off with an exception that has no text. -/
def Tells (suite : Suite) (mode : CheckMode) (bundle : Bundle) : Prop :=
  ∀ check ∈ suite.checks mode, ∀ fault, ¬(check.run bundle).Untold fault

/-- The first check of a mode that breaks off with an exception without a text does so for the given
reason. -/
def BreaksFirst (suite : Suite) (mode : CheckMode) (bundle : Bundle) (fault : TextFault) : Prop :=
  ∃ front check back, suite.checks mode = front ++ check :: back ∧
    (∀ earlier ∈ front, ∀ other, ¬(earlier.run bundle).Untold other) ∧
    (check.run bundle).Untold fault

/-- The report about a bundle, by the checks of the mode. -/
theorem inspect_eq (suite : Suite) (mode : CheckMode) (bundle : Bundle) :
    suite.inspect mode bundle =
      match (suite.checks mode).findSome? (·.textFault? bundle) with
      | some fault => .error fault
      | none => .ok (suite.survey mode bundle) := by
  have whole : suite.inspect mode bundle =
      runChecks bundle { Report.start bundle.path mode with kind := some (classify bundle.config) }
        (suite.checks mode) := by
    unfold inspect
    cases mode with
    | fast => exact bind_pure _
    | comprehensive => exact (runChecks_append ..).symm
  rw [whole, runChecks_eq]
  rfl

variable {suite : Suite} {mode : CheckMode} {bundle : Bundle}

theorem tells_iff :
    (suite.checks mode).findSome? (·.textFault? bundle) = none ↔ suite.Tells mode bundle := by
  simp only [List.findSome?_eq_none_iff, NamedCheck.textFault?_eq_none_iff, Tells]

theorem breaksFirst_iff {fault : TextFault} :
    (suite.checks mode).findSome? (·.textFault? bundle) = some fault ↔
      suite.BreaksFirst mode bundle fault := by
  simp only [List.findSome?_eq_some_iff, NamedCheck.textFault?_eq_some_iff,
    NamedCheck.textFault?_eq_none_iff, BreaksFirst]
  constructor
  · rintro ⟨front, check, back, parted, untold, told⟩
    exact ⟨front, check, back, parted, told, untold⟩
  · rintro ⟨front, check, back, parted, told, untold⟩
    exact ⟨front, check, back, parted, untold, told⟩

/-- A bundle is reported on exactly if no check breaks off the run. -/
theorem inspect_eq_ok_iff {report : Report} :
    suite.inspect mode bundle = .ok report ↔
      suite.Tells mode bundle ∧ suite.survey mode bundle = report := by
  rw [inspect_eq, ← tells_iff]
  cases (suite.checks mode).findSome? (·.textFault? bundle) <;> simp

theorem inspect_eq_error_iff {fault : TextFault} :
    suite.inspect mode bundle = .error fault ↔ suite.BreaksFirst mode bundle fault := by
  rw [inspect_eq, ← breaksFirst_iff]
  cases (suite.checks mode).findSome? (·.textFault? bundle) <;> simp

/-- A file that splits is inspected. -/
theorem run_of_split {files : Files} {path : Path} {content : List Char}
    {parts : FrontMatter.Parts} (opened : openText files path = .text content)
    (parted : FrontMatter.split content = .ok parts) (suite : Suite) (mode : CheckMode) :
    suite.run files mode path =
      (suite.inspect mode { config := parts.config, body := parts.body, path }).mapError
        .untold := by
  simp [run, opened, parted]

/-- A file that splits is reported on if no check breaks off the run. -/
theorem run_of_tells {files : Files} {path : Path} {content : List Char}
    {parts : FrontMatter.Parts} (opened : openText files path = .text content)
    (parted : FrontMatter.split content = .ok parts)
    (tells : suite.Tells mode { config := parts.config, body := parts.body, path }) :
    suite.run files mode path =
      .ok (suite.survey mode { config := parts.config, body := parts.body, path }) := by
  rw [run_of_split opened parted, inspect_eq_ok_iff.mpr ⟨tells, rfl⟩]
  rfl

/-- Names and blocks of a report, phase by phase. -/
theorem survey_phases (suite : Suite) (mode : CheckMode) (bundle : Bundle) :
    (suite.survey mode bundle).checksRun =
        suite.fast.map (·.name) ++
          (if mode = .comprehensive then suite.slow.map (·.name) else []) ∧
      (suite.survey mode bundle).issues =
        suite.fast.flatMap (·.block bundle) ++
          (if mode = .comprehensive then suite.slow.flatMap (·.block bundle) else []) := by
  cases mode with
  | fast => simp [survey, checks]
  | comprehensive => simp [survey, checks]

/-- A suite of fast checks only runs them in either mode. -/
theorem checks_alone (list : List NamedCheck) (mode : CheckMode) :
    Suite.checks ⟨list, []⟩ mode = list := by
  cases mode with
  | fast => rfl
  | comprehensive => exact List.append_nil list

/-- The report of a suite whose checks fall into two lists, from the reports of both. -/
theorem survey_append {front back : List NamedCheck} (parted : suite.checks mode = front ++ back)
    (bundle : Bundle) :
    (suite.survey mode bundle).issues =
        (Suite.survey ⟨front, []⟩ mode bundle).issues ++
          (Suite.survey ⟨back, []⟩ mode bundle).issues ∧
      (suite.survey mode bundle).checksRun =
        (Suite.survey ⟨front, []⟩ mode bundle).checksRun ++
          (Suite.survey ⟨back, []⟩ mode bundle).checksRun := by
  simp [survey, parted, checks_alone]

/-- The report of a suite around one of its checks. -/
theorem survey_around {front back : List NamedCheck} {check : NamedCheck}
    (parted : suite.checks mode = front ++ check :: back) (bundle : Bundle) :
    suite.survey mode bundle =
      { path := bundle.path
        issues :=
          front.flatMap (·.block bundle) ++ check.block bundle ++ back.flatMap (·.block bundle)
        checksRun := front.map (·.name) ++ check.name :: back.map (·.name)
        mode
        kind := some (classify bundle.config)
        durationMs := 0 } := by
  simp [survey, parted, List.append_assoc]

end Suite

/-- A run on a file that splits is an ordered pipeline of isolated checks, as long as no check that
runs breaks off with an exception that has no text. It notes the names of the fast checks and then,
in comprehensive mode, of the slow ones; its issues are their blocks in this order; two parts of the
checks report what each reports alone; and another check in the place of one changes its name and
its block and nothing else. The first exception without a text is what the run gives instead. -/
theorem Suite.run_isolates_checks {files : Files} {path : Path} {content : List Char}
    {parts : FrontMatter.Parts} (opened : openText files path = .text content)
    (parted : FrontMatter.split content = .ok parts) :
    let bundle : Bundle := { config := parts.config, body := parts.body, path }
    (∀ check : NamedCheck,
      (∃ issues, check.run bundle = .issues issues ∧ check.block bundle = issues) ∨
        (∃ kind text, (check.run bundle).Fails kind text ∧
          check.block bundle = [check.failure bundle kind text]) ∨
        ∃ fault, (check.run bundle).Untold fault) ∧
    (∀ (suite : Suite) (mode : CheckMode) (fault : RunFault),
      suite.run files mode path = .error fault ↔
        ∃ own, fault = .untold own ∧ suite.BreaksFirst mode bundle own) ∧
    (∀ (suite : Suite) (mode : CheckMode), suite.Tells mode bundle → ∃ report,
      suite.run files mode path = .ok report ∧
        report.checksRun =
          suite.fast.map (·.name) ++
            (if mode = .comprehensive then suite.slow.map (·.name) else []) ∧
        report.issues =
          suite.fast.flatMap (·.block bundle) ++
            (if mode = .comprehensive then suite.slow.flatMap (·.block bundle) else [])) ∧
    (∀ (suite : Suite) (mode : CheckMode) (front back : List NamedCheck),
      suite.Tells mode bundle → suite.checks mode = front ++ back →
        ∃ whole first second,
          suite.run files mode path = .ok whole ∧
            Suite.run ⟨front, []⟩ files mode path = .ok first ∧
            Suite.run ⟨back, []⟩ files mode path = .ok second ∧
            whole.issues = first.issues ++ second.issues ∧
            whole.checksRun = first.checksRun ++ second.checksRun) ∧
    (∀ (suite other : Suite) (mode : CheckMode) (front back : List NamedCheck)
        (check replacement : NamedCheck),
      suite.Tells mode bundle → other.Tells mode bundle →
        suite.checks mode = front ++ check :: back →
          other.checks mode = front ++ replacement :: back →
            ∃ (report : Report) (before after : List Issue),
              suite.run files mode path =
                  .ok
                    { report with
                      issues := before ++ check.block bundle ++ after
                      checksRun := front.map (·.name) ++ check.name :: back.map (·.name) } ∧
                other.run files mode path =
                  .ok
                    { report with
                      issues := before ++ replacement.block bundle ++ after
                      checksRun :=
                        front.map (·.name) ++ replacement.name :: back.map (·.name) }) := by
  intro bundle
  have run_eq {suite : Suite} {mode : CheckMode} (tells : suite.Tells mode bundle) :
      suite.run files mode path = .ok (suite.survey mode bundle) :=
    run_of_tells opened parted tells
  refine ⟨NamedCheck.block_cases bundle, ?breaks, ?pipeline, ?append, ?replace⟩
  case breaks =>
    intro suite mode fault
    rw [run_of_split opened parted, mapError_eq_error_iff]
    simp only [inspect_eq_error_iff]
    constructor
    · rintro ⟨own, breaks, rfl⟩
      exact ⟨own, rfl, breaks⟩
    · rintro ⟨own, rfl, breaks⟩
      exact ⟨own, breaks, rfl⟩
  case pipeline =>
    intro suite mode tells
    exact ⟨_, run_eq tells, suite.survey_phases mode bundle⟩
  case append =>
    intro suite mode front back tells cut
    -- A part of the checks breaks off a run only if the whole list does.
    have tells_alone {list : List NamedCheck} (among : list ⊆ suite.checks mode) :
        Suite.Tells ⟨list, []⟩ mode bundle := by
      intro check member
      rw [checks_alone] at member
      exact tells check (among member)
    have front_tells := tells_alone (by rw [cut]; exact List.subset_append_left ..)
    have back_tells := tells_alone (by rw [cut]; exact List.subset_append_right ..)
    exact ⟨_, _, _, run_eq tells, run_eq front_tells, run_eq back_tells, survey_append cut bundle⟩
  case replace =>
    intro suite other mode front back check replacement tells other_tells here there
    refine ⟨suite.survey mode bundle, front.flatMap (·.block bundle),
      back.flatMap (·.block bundle), ?_, ?_⟩
    · rw [run_eq tells, survey_around here bundle]
    · rw [run_eq other_tells, survey_around there bundle, survey_around here bundle]

/-- A check of each outcome, one of them slow. -/
def mixedSuite : Suite :=
  { fast :=
      [{ name := "lists", run := fun bundle => .issues [notFoundIssue bundle.path] },
        { name := "breaks"
          run := fun _ => .raised { kind := "RuntimeError", text := .ok "boom" } }]
    slow := [{ name := "lists", run := fun _ => .notList "int" }] }

/-- No exception of these checks lacks a text. -/
theorem mixedSuite_tells (mode : CheckMode) (bundle : Bundle) : mixedSuite.Tells mode bundle := by
  rw [← Suite.tells_iff]
  cases mode <;> rfl

/-- A bundle that has a name. -/
def namedText : String := "---\nbundle: \x7bname: x\x7d\n---\nbody\n"

/-- A file with that text is read and splits. -/
theorem namedText_splits :
    openText (fun _ => .file namedText.toUTF8.toList) ⟨0, ["b.md"]⟩ = .text namedText.toList ∧
      ∃ parts, FrontMatter.split namedText.toList = .ok parts := by
  have splits : (FrontMatter.split namedText.toList).isOk = true := by decide +kernel
  exact ⟨by decide +kernel, isOk_iff.mp splits⟩

theorem Suite.run_isolates_checks_mixed :
    ∃ parts report,
      openText (fun _ => .file namedText.toUTF8.toList) ⟨0, ["b.md"]⟩ = .text namedText.toList ∧
        FrontMatter.split namedText.toList = .ok parts ∧
        mixedSuite.run (fun _ => .file namedText.toUTF8.toList) .comprehensive ⟨0, ["b.md"]⟩ =
          .ok report ∧
        report.checksRun = ["lists", "breaks", "lists"] ∧
        report.issues.map (·.message) =
          ["bundle file not found: b.md", "check 'breaks' raised RuntimeError: boom",
            "check 'lists' raised TypeError: check returned int, expected list"] := by
  obtain ⟨opened, parts, parted⟩ := namedText_splits
  obtain ⟨-, -, reported, -, -⟩ := Suite.run_isolates_checks opened parted
  obtain ⟨report, run_eq, names, issues⟩ :=
    reported mixedSuite .comprehensive (mixedSuite_tells _ _)
  refine ⟨parts, report, opened, parted, run_eq, names, ?_⟩
  rw [issues]
  rfl

/-- A check that breaks off with a number of 5001 digits as a missing key. -/
def longKeyCheck : NamedCheck :=
  { name := "table"
    run := fun _ =>
      .raised { kind := "KeyError", text := (Value.int (.ofNat (Nat.pow 10 5000))).literal } }

theorem Suite.run_isolates_checks_longKey :
    ¬∀ (suite : Suite) (files : Files) (mode : CheckMode) (path : Path) (content : List Char)
        (parts : FrontMatter.Parts),
      openText files path = .text content → FrontMatter.split content = .ok parts →
        ∃ report, suite.run files mode path = .ok report ∧
          report.checksRun =
            suite.fast.map (·.name) ++
              (if mode = .comprehensive then suite.slow.map (·.name) else []) := by
  intro always_reports
  obtain ⟨opened, parts, parted⟩ := namedText_splits
  have breaks :
      (Suite.run ⟨[longKeyCheck], []⟩ (fun _ => .file namedText.toUTF8.toList) .fast
        ⟨0, ["b.md"]⟩).isOk = false := by
    decide +kernel
  obtain ⟨report, run_eq, -⟩ :=
    always_reports ⟨[longKeyCheck], []⟩ _ .fast _ _ parts opened parted
  rw [run_eq] at breaks
  cases breaks

end BundleLint
