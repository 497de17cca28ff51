import BundleLint.Proofs.CommandLine.Verdict
import BundleLint.Proofs.Settings.Sources
import BundleLint.Proofs.Suite.Ending
import BundleLint.Proofs.Text.Split

/-!
# What the program makes of its settings

The command line stands above the loaded settings: it replaces the mode, and it adds to the other
settings. Names that are no built-in checks end the program before any file is opened.
-/

namespace BundleLint

/-- Names of the built-in checks in the order in which they run. -/
def checkNames : List String := ["frontmatter_syntax", "required_fields", "module_list_format"]

theorem BuiltInCheck.ofName?_isSome_iff {name : String} :
    (ofName? name).isSome = true ↔ name ∈ checkNames := by
  have named : checkNames = all.map (·.name) := rfl
  rw [ofName?, List.find?_isSome, named, List.mem_map]
  simp

namespace Suite

/-- A run has the mode that it was asked for. -/
theorem mode_of_run {suite : Suite} {files : Files} {mode : CheckMode} {path : Path}
    {report : Report} (ran : suite.run files mode path = .ok report) : report.mode = mode := by
  obtain ⟨ending, -, -, rfl⟩ := run_eq_ok_iff.mp ran
  cases ending with
  | inspected bundle => rfl
  | missing => rfl
  | unreadable fault => rfl
  | rejected rejection => rfl

/-- Past the front matter the built-in checks run in their order, but for those that are skipped. -/
theorem checksRun_of_run {skipped : List String} {files : Files} {mode : CheckMode} {path : Path}
    {report : Report} (ran : (standard skipped).run files mode path = .ok report)
    (inspected : report.kind ≠ none) :
    report.checksRun = checkNames.filter fun name => !skipped.contains name := by
  obtain ⟨ending, -, -, rfl⟩ := run_eq_ok_iff.mp ran
  cases ending with
  | missing => exact absurd rfl inspected
  | unreadable fault => exact absurd rfl inspected
  | rejected rejection => exact absurd rfl inspected
  | inspected bundle =>
      have named : checkNames = BuiltInCheck.all.map (·.name) := rfl
      rw [Ending.report, survey, standard_checks_skipping, named, List.filter_map, List.map_map]
      rfl

end Suite

namespace CommandLine

theorem unknownNames_eq_nil_iff {names : List String} :
    unknownNames names = [] ↔ ∀ name ∈ names, name ∈ checkNames := by
  rw [unknownNames, Text.sorted_eq_nil_iff, List.eq_nil_iff_forall_not_mem]
  simp [← BuiltInCheck.ofName?_isSome_iff, Option.isSome_iff_ne_none]

section

variable {files : Files} {world : World} {time : String} {extend : Suite → Suite}
  {words : List String} {arguments : Arguments} {settings : Settings} {loaded : Settings.Loaded}

theorem runWith_of_nameless (nameless : arguments.hasNameless = true) :
    runWith files time extend arguments settings = .error .nameless := by
  simp [runWith, nameless]

/-- With an unknown name the program ends before it looks at files. -/
theorem runWith_of_unknown (named : arguments.hasNameless = false)
    (unknown : unknownNames (plan arguments settings).skipped ≠ []) :
    runWith files time extend arguments settings =
      .ok (fatalError (unknownNamesMessage (unknownNames (plan arguments settings).skipped))) := by
  cases listed : unknownNames (plan arguments settings).skipped with
  | nil => exact absurd listed unknown
  | cons first rest => simp [runWith, named, listed]

theorem execute_of_loads (requested : readArguments words = .ok (.run arguments))
    (loads : Settings.load world = .ok loaded) :
    execute world time extend words =
      (runWith world.files time extend arguments loaded.settings).map fun completion =>
        { completion with warnings := loaded.warnings } := by
  simp only [execute, requested, loads]

theorem shown_plan (reports : List Report) :
    shown (plan arguments settings) time reports =
      if arguments.json = true ∨ settings.format = .json then
        showJson (arguments.strict || settings.strict) time reports
      else showTexts (arguments.strict || settings.strict) reports := by
  rw [shown]
  split
  · rename_i format_eq
    rw [if_pos (plan_format_eq_json_iff.mp format_eq)]
    rfl
  · rename_i format_eq
    rw [if_neg]
    · rfl
    · intro wants_json
      rw [plan_format_eq_json_iff.mpr wants_json] at format_eq
      cases format_eq

end

/-- Each setting has its highest source: the command line, then its variable, then the settings
file, then the default; flags add to the format and to strictness, and names to those that are
skipped. An unknown name ends the program with exit code two, no output and no look at any file.
With known names every report has the mode, and past the front matter it has run the built-in
checks that are not skipped. A name that the reader of the command line has dropped as a separator
breaks the program off. -/
theorem execute_resolves {world : World} {time : String} {words : List String}
    {arguments : Arguments} {loaded : Settings.Loaded}
    (requested : readArguments words = .ok (.run arguments))
    (loads : Settings.load world = .ok loaded) :
    let mode := arguments.mode.getD loaded.settings.mode
    let strict := arguments.strict || loaded.settings.strict
    let skipped := loaded.settings.disabledChecks ++ arguments.skipped
    (∃ file, Settings.FileHolds world file ∧
      Settings.Decided [.ofVariables world, .ofMapping file] loaded.settings) ∧
    (arguments.hasNameless = true →
      ∀ extend, execute world time extend words = .error .nameless) ∧
    (arguments.hasNameless = false → (∃ name ∈ skipped, name ∉ checkNames) →
      ∃ errors,
        (∀ files later extend,
          runWith files later extend arguments loaded.settings =
            .ok { exitCode := 2, output := "", errors, warnings := [] }) ∧
        ∀ extend,
          execute world time extend words =
            .ok { exitCode := 2, output := "", errors, warnings := loaded.warnings }) ∧
    (arguments.hasNameless = false → (∀ name ∈ skipped, name ∈ checkNames) →
      ∀ completion,
        execute world time id words = .ok completion ↔
          ∃ reports,
            List.Forall₂
              (fun path report =>
                (Suite.standard skipped).run world.files mode (.ofText path) = .ok report ∧
                  report.mode = mode ∧
                  (report.kind ≠ none →
                    report.checksRun = checkNames.filter fun name => !skipped.contains name))
              arguments.paths reports ∧
            completion =
              { (if arguments.json = true ∨ loaded.settings.format = .json then
                  showJson strict time reports
                else showTexts strict reports) with
                warnings := loaded.warnings }) := by
  intro mode strict skipped
  refine ⟨Settings.load_decided loads, ?_, ?_, ?_⟩
  · intro nameless extend
    rw [execute_of_loads requested loads, runWith_of_nameless nameless]
    rfl
  · rintro named ⟨name, member, unknown⟩
    have unknown_ne : unknownNames (plan arguments loaded.settings).skipped ≠ [] :=
      fun none => unknown (unknownNames_eq_nil_iff.mp none name member)
    refine ⟨_, fun files later extend => runWith_of_unknown named unknown_ne, ?_⟩
    intro extend
    rw [execute_of_loads requested loads, runWith_of_unknown named unknown_ne]
    rfl
  · intro named all_known completion
    have known : unknownNames (plan arguments loaded.settings).skipped = [] :=
      unknownNames_eq_nil_iff.mpr all_known
    -- What the runs of the paths give is known from the runs alone, so both directions agree.
    rw [execute_of_loads requested loads, map_eq_ok_iff]
    simp only [runWith_eq_ok_iff known, mapM_eq_ok_iff, shown_plan]
    constructor
    · rintro ⟨_, ⟨-, reports, each, rfl⟩, rfl⟩
      refine ⟨reports, each.imp ?_, rfl⟩
      intro path report ran
      exact ⟨ran, Suite.mode_of_run ran, Suite.checksRun_of_run ran⟩
    · rintro ⟨reports, each, rfl⟩
      exact ⟨_, ⟨named, reports, each.imp fun path report found => found.1, rfl⟩, rfl⟩

/-- A place with a bundle and a settings file, where a variable takes the mode of that file away. -/
def layeredWorld : World :=
  { files := fun path =>
      if path.parts = ["b.md"] then .file namedText.toUTF8.toList
      else .file "mode: fast\ndisabled_checks: required_fields\n".toUTF8.toList
    workingDirectory := ⟨1, ["work"]⟩
    environment := fun name => if name = modeVariable then some "comprehensive" else none }

theorem layered_request :
    readArguments ["--json", "b.md"] =
      .ok (.run { Progress.initial.arguments with paths := ["b.md"], json := true }) := by
  decide +kernel

theorem execute_resolves_layered :
    ∃ arguments loaded completion reports,
      readArguments ["--json", "b.md"] = .ok (.run arguments) ∧
        Settings.load layeredWorld = .ok loaded ∧
        execute layeredWorld "" id ["--json", "b.md"] = .ok completion ∧
        completion.output = (reportsJson "" reports).pretty ++ "\n" ∧
        ∀ report ∈ reports, report.mode = .comprehensive ∧
          (report.kind ≠ none →
            report.checksRun = ["frontmatter_syntax", "module_list_format"]) := by
  have settings_eq :
      (Settings.load layeredWorld).toOption.map (·.settings) =
        some
          { mode := .comprehensive, format := .text, strict := false
            disabledChecks := ["required_fields"]
            source := some ⟨1, ["work", ".bundle-health.yaml"]⟩ } := by
    decide +kernel
  have completes : (execute layeredWorld "" id ["--json", "b.md"]).isOk = true := by
    decide +kernel
  cases loads : Settings.load layeredWorld with
  | error fault =>
      rw [loads] at settings_eq
      cases settings_eq
  | ok loaded =>
      obtain ⟨settings, warnings⟩ := loaded
      rw [loads] at settings_eq
      obtain rfl : settings = _ := Option.some.inj settings_eq
      cases ended : execute layeredWorld "" id ["--json", "b.md"] with
      | error crash =>
          rw [ended] at completes
          cases completes
      | ok completion =>
          obtain ⟨-, -, -, completes_iff⟩ := execute_resolves layered_request loads
          have all_known : ∀ name ∈ ["required_fields"], name ∈ checkNames := by decide
          obtain ⟨reports, each, rfl⟩ := (completes_iff rfl all_known completion).mp ended
          refine ⟨_, _, _, reports, layered_request, rfl, rfl, rfl, ?_⟩
          exact forall_of_forall₂ each fun path report found => found.2

/-- A place with one bundle and no settings. -/
def namedWorld : World :=
  { files := namedFiles, workingDirectory := ⟨1, ["work"]⟩, environment := fun _ => none }

/-- A skipped name that is unknown, and one that is dropped as a separator. -/
def namelessWords : List String := ["--skip-check=bogus", "--skip-check=--", "a.md"]

theorem nameless_request :
    readArguments namelessWords =
      .ok
        (.run
          { Progress.initial.arguments with
            paths := ["a.md"], skipped := ["bogus"], hasNameless := true }) := by
  decide +kernel

theorem execute_nameless_breaks :
    ¬∀ (world : World) (time : String) (words : List String) (arguments : Arguments)
        (loaded : Settings.Loaded),
      readArguments words = .ok (.run arguments) → Settings.load world = .ok loaded →
        (∃ name ∈ loaded.settings.disabledChecks ++ arguments.skipped, name ∉ checkNames) →
          ∃ completion, execute world time id words = .ok completion ∧
            completion.exitCode = 2 ∧ completion.output = "" := by
  intro always_told
  have loads_ok : (Settings.load namedWorld).isOk = true := by decide +kernel
  have breaks : (execute namedWorld "" id namelessWords).isOk = false := by decide +kernel
  cases loads : Settings.load namedWorld with
  | error fault =>
      rw [loads] at loads_ok
      cases loads_ok
  | ok loaded =>
      obtain ⟨completion, ended, -⟩ :=
        always_told namedWorld "" namelessWords _ loaded nameless_request loads
          ⟨"bogus", by simp, by decide⟩
      rw [ended] at breaks
      cases breaks

end CommandLine

end BundleLint
