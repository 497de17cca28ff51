import BundleLint.Proofs.Suite.Ending

/-!
# Selecting checks

The mode and the skipped names select the checks that run, and they select nothing else. A fast
run is the beginning of a comprehensive one, and to skip built-in checks takes away their names and
the issues with their codes.
-/

namespace BundleLint

namespace Report

variable {quick full : Report}

/-! ## Fast and comprehensive runs -/

/-- A report that goes on where another one about the same file has ended. -/
structure Continues (quick full : Report) : Prop where
  /-- The file is the same. -/
  path : full.path = quick.path
  /-- The file defines the same. -/
  kind : full.kind = quick.kind
  /-- The checks that ran come first. -/
  checksRun : quick.checksRun <+: full.checksRun
  /-- The issues that were found come first. -/
  issues : quick.issues <+: full.issues

theorem Continues.errors (continues : quick.Continues full) : quick.errors <+: full.errors :=
  continues.issues.filter _

theorem Continues.passed (continues : quick.Continues full) (passed : full.passed = true) :
    quick.passed = true := by
  have clean : ∀ issue ∈ full.issues, issue.severity.isBlocking = false := by
    simpa [Report.passed, hasErrors] using passed
  have begins := continues.issues.subset
  simpa [Report.passed, hasErrors] using fun issue member => clean issue (begins member)

/-- What was found keeps its index. -/
theorem Continues.issue_at (continues : quick.Continues full) {index : Nat} {issue : Issue}
    (found : quick.issues[index]? = some issue) : full.issues[index]? = some issue := by
  obtain ⟨later, full_eq⟩ := continues.issues
  obtain ⟨inside, -⟩ := List.getElem?_eq_some_iff.mp found
  rw [← full_eq, List.getElem?_append_left inside, found]

end Report

namespace Suite

/-- A comprehensive report is the fast one with the names and the blocks of the slow checks at its
ends. -/
theorem survey_comprehensive (suite : Suite) (bundle : Bundle) :
    suite.survey .comprehensive bundle =
      { suite.survey .fast bundle with
        mode := .comprehensive
        checksRun := (suite.survey .fast bundle).checksRun ++ suite.slow.map (·.name)
        issues := (suite.survey .fast bundle).issues ++ suite.slow.flatMap (·.block bundle) } := by
  simp [survey, checks]

/-- A comprehensive run breaks off where the fast run does, or at a slow check. -/
theorem breaksFirst_comprehensive_iff {suite : Suite} {bundle : Bundle} {fault : TextFault} :
    suite.BreaksFirst .comprehensive bundle fault ↔
      suite.BreaksFirst .fast bundle fault ∨
        (suite.Tells .fast bundle ∧ Suite.BreaksFirst ⟨suite.slow, []⟩ .fast bundle fault) := by
  simp only [← breaksFirst_iff, ← tells_iff, checks, List.findSome?_append]
  cases suite.fast.findSome? (·.textFault? bundle) with
  | none => simp
  | some own => simp

/-- A comprehensive run on a file ends as the fast run does. -/
theorem ending_of_runs {suite : Suite} {files : Files} {path : Path} {quick full : Report}
    (fast : suite.run files .fast path = .ok quick)
    (comprehensive : suite.run files .comprehensive path = .ok full) :
    ∃ ending, EndsAs files path ending ∧ quick = ending.report suite .fast path ∧
      full = ending.report suite .comprehensive path := by
  obtain ⟨ending, ends, -, rfl⟩ := run_eq_ok_iff.mp fast
  obtain ⟨other, other_ends, -, rfl⟩ := run_eq_ok_iff.mp comprehensive
  rw [ends.unique other_ends]
  exact ⟨ending, ends, rfl, rfl⟩

theorem continues_of_runs {suite : Suite} {files : Files} {path : Path} {quick full : Report}
    (fast : suite.run files .fast path = .ok quick)
    (comprehensive : suite.run files .comprehensive path = .ok full) : quick.Continues full := by
  obtain ⟨ending, -, rfl, rfl⟩ := ending_of_runs fast comprehensive
  cases coded : ending.code? with
  | some code =>
      obtain ⟨-, same⟩ := ending.report_stops coded suite .fast path
      rw [same suite .comprehensive]
      exact ⟨rfl, rfl, List.prefix_rfl, List.prefix_rfl⟩
  | none =>
      obtain ⟨bundle, rfl⟩ := Ending.code?_eq_none_iff.mp coded
      rw [Ending.report, Ending.report, survey_comprehensive]
      exact ⟨rfl, rfl, List.prefix_append .., List.prefix_append ..⟩

/-- A fast run is the beginning of a comprehensive run. The second breaks off with the fault of the
first, or else at a slow check that has no text for its exception. Two reports go on where the other
ends: with the names and the blocks of the slow checks, or with nothing but the mode if no check has
run. -/
theorem fast_begins_comprehensive (suite : Suite) (files : Files) (path : Path) :
    (∀ fault,
      suite.run files .comprehensive path = .error fault ↔
        suite.run files .fast path = .error fault ∨
          ∃ bundle own, fault = .untold own ∧ EndsAs files path (.inspected bundle) ∧
            suite.Tells .fast bundle ∧ Suite.BreaksFirst ⟨suite.slow, []⟩ .fast bundle own) ∧
    ∀ quick full, suite.run files .fast path = .ok quick →
      suite.run files .comprehensive path = .ok full →
        quick.Continues full ∧
        (full.passed = true → quick.passed = true) ∧
        quick.errors <+: full.errors ∧
        (∀ (index : Nat) (issue : Issue), quick.issues[index]? = some issue →
          full.issues[index]? = some issue) ∧
        (∀ bundle, EndsAs files path (.inspected bundle) →
          quick.checksRun = suite.fast.map (·.name) ∧
            quick.issues = suite.fast.flatMap (·.block bundle) ∧
            full.checksRun = quick.checksRun ++ suite.slow.map (·.name) ∧
            full.issues = quick.issues ++ suite.slow.flatMap (·.block bundle)) ∧
        (∀ ending code, EndsAs files path ending → ending.code? = some code →
          full = { quick with mode := .comprehensive }) := by
  constructor
  · intro fault
    rw [run_eq_error_iff, run_eq_error_iff]
    -- The reader does not know the mode, so only the checks can tell the two runs apart.
    constructor
    · rintro ⟨content, opened, reads | ⟨own, parts, rfl, parted, breaks⟩⟩
      · exact .inl ⟨content, opened, .inl reads⟩
      · rcases breaksFirst_comprehensive_iff.mp breaks with early | ⟨tells, late⟩
        · exact .inl ⟨content, opened, .inr ⟨own, parts, rfl, parted, early⟩⟩
        · have inspects := EndsAs.inspected (openText_eq_text_iff.mp opened) parted
          exact .inr ⟨_, own, rfl, inspects, tells, late⟩
    · rintro (⟨content, opened, reads | ⟨own, parts, rfl, parted, early⟩⟩ |
        ⟨bundle, own, rfl, inspects, tells, late⟩)
      · exact ⟨content, opened, .inl reads⟩
      · have breaks := breaksFirst_comprehensive_iff.mpr (.inl early)
        exact ⟨content, opened, .inr ⟨own, parts, rfl, parted, breaks⟩⟩
      · have breaks := breaksFirst_comprehensive_iff.mpr (.inr ⟨tells, late⟩)
        cases inspects with
        | inspected holds parted =>
            exact ⟨_, openText_eq_text_iff.mpr holds, .inr ⟨own, _, rfl, parted, breaks⟩⟩
  · intro quick full fast comprehensive
    have continues := continues_of_runs fast comprehensive
    obtain ⟨ending, ends, rfl, rfl⟩ := ending_of_runs fast comprehensive
    refine ⟨continues, continues.passed, continues.errors, fun _ _ => continues.issue_at, ?_, ?_⟩
    · intro bundle inspects
      obtain rfl := ends.unique inspects
      rw [Ending.report, Ending.report, survey_comprehensive]
      obtain ⟨names, blocks⟩ := suite.survey_phases .fast bundle
      exact ⟨by simpa using names, by simpa using blocks, rfl, rfl⟩
    · intro other code other_ends coded
      obtain rfl := ends.unique other_ends
      obtain ⟨-, same⟩ := other.report_stops coded suite .fast path
      exact same suite .comprehensive

theorem fast_begins_comprehensive_mixed :
    ∃ bundle quick full,
      EndsAs (fun _ => .file namedText.toUTF8.toList) ⟨0, ["b.md"]⟩ (.inspected bundle) ∧
        mixedSuite.run (fun _ => .file namedText.toUTF8.toList) .fast ⟨0, ["b.md"]⟩ = .ok quick ∧
        mixedSuite.run (fun _ => .file namedText.toUTF8.toList) .comprehensive ⟨0, ["b.md"]⟩ =
          .ok full ∧
        quick.Continues full ∧ full.checksRun = quick.checksRun ++ ["lists"] ∧
        full.issues.length = quick.issues.length + 1 ∧
        mixedSuite.run (fun _ => .absent) .comprehensive ⟨0, ["b.md"]⟩ =
          .ok ((Report.start ⟨0, ["b.md"]⟩ .comprehensive).add (notFoundIssue ⟨0, ["b.md"]⟩)) := by
  obtain ⟨opened, parts, parted⟩ := namedText_splits
  have inspects := EndsAs.inspected (openText_eq_text_iff.mp opened) parted
  have fast := run_of_tells opened parted (mixedSuite_tells .fast _)
  have comprehensive := run_of_tells opened parted (mixedSuite_tells .comprehensive _)
  obtain ⟨-, begins⟩ :=
    fast_begins_comprehensive mixedSuite (fun _ => .file namedText.toUTF8.toList) ⟨0, ["b.md"]⟩
  obtain ⟨continues, -, -, -, phases, -⟩ := begins _ _ fast comprehensive
  obtain ⟨-, -, names, issues⟩ := phases _ inspects
  refine ⟨_, _, _, inspects, fast, comprehensive, continues, names, ?_, rfl⟩
  rw [issues, List.length_append]
  rfl

end Suite

/-! ## Skipped checks -/

/-- Whether an issue has the code of a check that is skipped. -/
def isSkipped (skipped : List String) (issue : Issue) : Bool :=
  BuiltInCheck.all.any fun check =>
    skipped.contains check.name && check.codes.contains issue.code

/-- A report without the names of skipped checks and without the issues with their codes. -/
def Report.without (report : Report) (skipped : List String) : Report :=
  { report with
    checksRun := report.checksRun.filter fun name => !skipped.contains name
    issues := report.issues.filter fun issue => !isSkipped skipped issue }

variable {skipped : List String}

/-- The check that owns the code of an issue decides whether it is skipped. -/
theorem isSkipped_eq {check : BuiltInCheck} {issue : Issue} (own : issue.code ∈ check.codes) :
    isSkipped skipped issue = skipped.contains check.name := by
  rw [Bool.eq_iff_iff]
  simp only [isSkipped, List.any_eq_true, Bool.and_eq_true, List.contains_iff_mem]
  constructor
  · rintro ⟨other, -, named, known⟩
    rwa [check.codes_disjoint other issue.code own known]
  · intro named
    exact ⟨check, check.mem_all, named, own⟩

/-- The issues of a check that does not break off are kept or taken away together. -/
theorem BuiltInCheck.block_filter {check : BuiltInCheck} {bundle : Bundle}
    (unbroken : ¬check.Breaks bundle.config) :
    (check.named.block bundle).filter (fun issue => !isSkipped skipped issue) =
      if !skipped.contains check.name then check.named.block bundle else [] := by
  rcases check.block_cases bundle with ⟨-, -, known⟩ | ⟨breaks, -⟩
  · have same : ∀ issue ∈ check.named.block bundle,
        (!isSkipped skipped issue) = !skipped.contains check.name := by
      intro issue member
      rw [isSkipped_eq (known issue member)]
    rw [List.filter_congr same]
    cases skipped.contains check.name with
    | true => simp
    | false => simp
  · exact absurd breaks unbroken

/-- Checks that are left out take their blocks with them, if the blocks can be told apart. -/
theorem flatMap_filter_eq {Item Part : Type} {parts : Item → List Part} {keeps : Item → Bool}
    {stays : Part → Bool} {items : List Item}
    (together : ∀ item ∈ items,
      (parts item).filter stays = if keeps item then parts item else []) :
    (items.filter keeps).flatMap parts = (items.flatMap parts).filter stays := by
  induction items with
  | nil => rfl
  | cons item items ih =>
      rw [List.forall_mem_cons] at together
      rw [List.flatMap_cons, List.filter_append, ← ih together.2, together.1]
      cases kept : keeps item with
      | true => simp [kept]
      | false => simp [kept]

namespace Suite

/-- What the built-in checks report without the skipped ones, if none of them breaks off. -/
theorem standard_survey_skipping {bundle : Bundle}
    (unbroken : ∀ check : BuiltInCheck, ¬check.Breaks bundle.config) (mode : CheckMode) :
    (standard skipped).survey mode bundle =
      ((standard []).survey mode bundle).without skipped := by
  have names :
      (BuiltInCheck.all.filter fun check => !skipped.contains check.name).map (·.name) =
        (BuiltInCheck.all.map (·.name)).filter fun name => !skipped.contains name := by
    rw [List.filter_map]
    rfl
  have blocks :
      (BuiltInCheck.all.filter fun check => !skipped.contains check.name).flatMap
          (·.named.block bundle) =
        (BuiltInCheck.all.flatMap (·.named.block bundle)).filter fun issue =>
          !isSkipped skipped issue :=
    flatMap_filter_eq fun check _ => check.block_filter (unbroken check)
  rw [survey, survey, standard_checks_skipping, standard_checks, Report.without]
  simp only [List.map_map, List.flatMap_map]
  congr 1

/-- Skipping takes away the output of the skipped checks and nothing else. On a file that splits
the report lacks their names and the issues with their codes, unless an entry of a list of modules
is an integer that cannot be written; on a file that ends a run before the checks it is the same. -/
theorem standard_skips (skipped : List String) (files : Files) (mode : CheckMode) (path : Path) :
    (∀ content parts, openText files path = .text content →
      FrontMatter.split content = .ok parts → ¬ListsUnwritable parts.config →
        ∃ report, (standard []).run files mode path = .ok report ∧
          (standard skipped).run files mode path = .ok (report.without skipped)) ∧
    (∀ ending code, EndsAs files path ending → ending.code? = some code →
      ∃ report, (standard []).run files mode path = .ok report ∧
        (standard skipped).run files mode path = .ok report) := by
  constructor
  · intro content parts opened parted writable
    refine ⟨_, run_standard opened parted [] mode, ?_⟩
    rw [run_standard opened parted skipped mode, standard_survey_skipping]
    intro check breaks
    exact writable breaks.2.2
  · intro ending code ends coded
    obtain ⟨-, same⟩ := ending.report_stops coded (standard []) mode path
    have tells (suite : Suite) := Ending.tells_of_coded coded suite mode
    exact ⟨_, run_eq_ok_iff.mpr ⟨ending, ends, tells _, same (standard []) mode⟩,
      run_eq_ok_iff.mpr ⟨ending, ends, tells _, same (standard skipped) mode⟩⟩

/-- A bundle without a name and with a tool that is no mapping. -/
def namelessText : String := "---\nbundle: \x7b\x7d\ntools:\n- y\n---\n"

theorem standard_skips_nameless :
    ∃ parts report,
      openText (fun _ => .file namelessText.toUTF8.toList) ⟨0, ["b.md"]⟩ =
          .text namelessText.toList ∧
        FrontMatter.split namelessText.toList = .ok parts ∧ ¬ListsUnwritable parts.config ∧
        (standard []).run (fun _ => .file namelessText.toUTF8.toList) .fast ⟨0, ["b.md"]⟩ =
          .ok report ∧
        (standard ["bogus", "required_fields", "bogus"]).run
            (fun _ => .file namelessText.toUTF8.toList) .fast ⟨0, ["b.md"]⟩ =
          .ok (report.without ["bogus", "required_fields", "bogus"]) ∧
        report.codes = ["MISSING_BUNDLE_NAME", "INVALID_MODULE_FORMAT"] ∧
        (report.without ["bogus", "required_fields", "bogus"]).codes =
          ["INVALID_MODULE_FORMAT"] ∧
        ∃ early, (standard ["required_fields"]).run (fun _ => .absent) .fast ⟨0, ["b.md"]⟩ =
          .ok early := by
  have opened :
      openText (fun _ => .file namelessText.toUTF8.toList) ⟨0, ["b.md"]⟩ =
        .text namelessText.toList := by
    decide +kernel
  have readable :
      (match FrontMatter.split namelessText.toList with
      | .ok parts =>
        (BuiltIn.sectionsIssues? parts.config ⟨0, []⟩ BuiltIn.moduleSections).isSome
      | .error _ => false) = true := by
    decide +kernel
  have codes_known :
      (match (standard []).run (fun _ => .file namelessText.toUTF8.toList) .fast ⟨0, ["b.md"]⟩ with
      | .ok report =>
        report.codes == ["MISSING_BUNDLE_NAME", "INVALID_MODULE_FORMAT"] &&
          (report.without ["bogus", "required_fields", "bogus"]).codes ==
            ["INVALID_MODULE_FORMAT"]
      | .error _ => false) = true := by
    decide +kernel
  split at readable
  · rename_i parts parted
    have writable : ¬ListsUnwritable parts.config := by
      intro unwritable
      have broken :
          BuiltIn.sectionsIssues? parts.config ⟨0, []⟩ BuiltIn.moduleSections = none :=
        BuiltIn.sectionsIssues?_eq_none_iff.mpr unwritable
      rw [broken] at readable
      cases readable
    obtain ⟨skips, -⟩ :=
      standard_skips ["bogus", "required_fields", "bogus"]
        (fun _ => .file namelessText.toUTF8.toList) .fast ⟨0, ["b.md"]⟩
    obtain ⟨report, whole_run, skipping_run⟩ := skips _ parts opened parted writable
    rw [whole_run] at codes_known
    simp only [Bool.and_eq_true, beq_iff_eq] at codes_known
    obtain ⟨-, stops⟩ :=
      standard_skips ["required_fields"] (fun _ => .absent) .fast ⟨0, ["b.md"]⟩
    obtain ⟨early, -, early_run⟩ := stops .missing _ (.missing rfl) rfl
    exact ⟨parts, report, opened, parted, writable, whole_run, skipping_run, codes_known.1,
      codes_known.2, early, early_run⟩
  · cases readable

end Suite

end BundleLint
