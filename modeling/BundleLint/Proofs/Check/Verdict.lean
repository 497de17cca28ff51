import BundleLint.Proofs.Suite.Blocks
import BundleLint.Proofs.Text.Trim

/-!
# The verdict of the built-in checks

The built-in checks pass a bundle exactly if its settings are sound: they belong to an agent, or
they name the bundle and list modules only. Every issue of these checks is an error, a failure of a
check included, so no defect passes in silence.
-/

namespace BundleLint

open Text (isBlank)

/-- Whether a key has a value. -/
def Mapping.Has (mapping : Mapping) (key : String) : Prop :=
  ∃ value, mapping.get? key = some value

/-- Text that is not blank. -/
def IsName (value : Value) : Prop :=
  ∃ text, value = .text text ∧ ∃ point ∈ text, ¬point.satisfies isBlank

/-- Settings with a mapping about the bundle that gives its name. -/
def NamesBundle (config : Mapping) : Prop :=
  ∃ bundle : Mapping, config.get? "bundle" = some bundle.toValue ∧
    ∃ name, bundle.get? "name" = some name ∧ IsName name

/-- A mapping that tells a module. -/
def IsModule (value : Value) : Prop :=
  ∃ mapping : Mapping, value = mapping.toValue ∧ mapping.Has "module"

/-- A list of modules. -/
def ListsModules (value : Value) : Prop :=
  ∃ entries, value.listItems? = some entries ∧ ∀ entry ∈ entries, IsModule entry

/-- Settings of an agent, or settings that name a bundle and whose sections, where they are
present, list modules. -/
def IsSound (config : Mapping) : Prop :=
  config.Has "meta" ∨
    (NamesBundle config ∧
      ∀ sectionName ∈ ["providers", "tools", "hooks"], ∀ value,
        config.get? sectionName = some value → ListsModules value)

namespace Mapping

theorem contains_iff (mapping : Mapping) (key : String) :
    mapping.contains key = true ↔ mapping.Has key := by
  simp only [contains, Has, get?, List.any_eq_true, Option.map_eq_some_iff,
    List.find?_isSome.symm, Option.isSome_iff_exists]
  constructor
  · rintro ⟨entry, found⟩
    exact ⟨_, entry, found, rfl⟩
  · rintro ⟨_, entry, found, -⟩
    exact ⟨entry, found⟩

end Mapping

@[simp]
theorem Mapping.toValue_inj {left right : Mapping} :
    left.toValue = right.toValue ↔ left = right := by
  obtain ⟨leftLabel, leftEntries⟩ := left
  obtain ⟨rightLabel, rightEntries⟩ := right
  simp [toValue]

theorem classify_eq_agent_iff {config : Mapping} :
    classify config = .agent ↔ config.Has "meta" := by
  rw [← Mapping.contains_iff]
  unfold classify agentKey
  split <;> simp_all

theorem Value.mapping?_eq_some_iff {value : Value} {mapping : Mapping} :
    value.mapping? = some mapping ↔ value = mapping.toValue := by
  cases value with
  | map label entries =>
      obtain ⟨ownLabel, ownEntries⟩ := mapping
      simp [Value.mapping?, Mapping.toValue]
  | _ => simp [Value.mapping?, Mapping.toValue]

/-- A value has text without blanks at its ends exactly if it is a name. -/
theorem trimmedText?_isSome_iff {value : Value} : (trimmedText? value).isSome ↔ IsName value := by
  cases value with
  | text text =>
      have blank_iff := Text.trim_eq_nil_iff text
      rw [Text.AllBlank] at blank_iff
      simp only [trimmedText?, Value.text?, IsName, Value.text.injEq, exists_eq_left',
        List.isEmpty_iff]
      split
      · rename_i empty
        have all_blank := blank_iff.mp empty
        simpa using all_blank
      · rename_i nonempty
        rw [blank_iff] at nonempty
        simpa using nonempty
  | _ => simp [trimmedText?, Value.text?, IsName]

/-- An error about a whole file. -/
def Issue.IsErrorIn (path : Path) (issue : Issue) : Prop :=
  issue.severity = .error ∧ issue.filePath = some path.text ∧ issue.line = none

/-- Issues that judge a condition, unless writing them breaks off: there are none exactly if it
holds, and all of them are errors. -/
structure Judges (path : Path) (condition : Prop) (issues : Option (List Issue)) : Prop where
  silent_iff : issues = some [] ↔ condition
  all_errors : ∀ found, issues = some found → ∀ issue ∈ found, issue.IsErrorIn path

namespace Judges

variable {path : Path} {condition other : Prop}

theorem silent (holds : condition) : Judges path condition (some []) := by
  refine ⟨iff_of_true rfl holds, ?_⟩
  rintro _ ⟨⟩ issue ⟨⟩

theorem error {issue : Issue} ( isError : issue.IsErrorIn path) (fails : ¬condition) :
    Judges path condition (some [issue]) := by
  refine ⟨iff_of_false (by simp) fails, ?_⟩
  rintro _ ⟨⟩ own member
  obtain rfl := List.mem_singleton.mp member
  exact isError

theorem broken (fails : ¬condition) : Judges path condition none := by
  refine ⟨iff_of_false (by simp) fails, ?_⟩
  rintro _ ⟨⟩

/-- Issues about one thing followed by those about another judge both. -/
theorem append {front back : Option (List Issue)} (here : Judges path condition front)
    (there : Judges path other back) :
    Judges path (condition ∧ other)
      (do
        let issues ← front
        let others ← back
        return issues ++ others) := by
  rw [← here.silent_iff, ← there.silent_iff]
  cases front with
  | none => exact broken (by simp)
  | some issues =>
      cases back with
      | none => exact broken (by simp)
      | some others =>
          refine ⟨by simp, ?_⟩
          rintro _ ⟨⟩ issue member
          rcases List.mem_append.mp member with first | second
          · exact here.all_errors issues rfl issue first
          · exact there.all_errors others rfl issue second

theorem congr {issues : Option (List Issue)} (judges : Judges path condition issues)
    (same : condition ↔ other) : Judges path other issues :=
  ⟨judges.silent_iff.trans same, judges.all_errors⟩

end Judges

namespace BuiltIn

theorem isErrorIn_errorIn (path : Path) (code message : String) (hint : List CodePoint) :
    (errorIn path code message hint).IsErrorIn path :=
  ⟨rfl, rfl, rfl⟩

theorem nameIssues_judges (config : Mapping) (path : Path) :
    Judges path (NamesBundle config) (some (nameIssues config path)) := by
  unfold nameIssues NamesBundle
  cases held : config.get? "bundle" with
  | none => exact .error (isErrorIn_errorIn ..) (by simp)
  | some value =>
      dsimp only
      cases isMapping : value.mapping? with
      | none =>
          refine .error (isErrorIn_errorIn ..) ?_
          rintro ⟨bundle, value_eq, -⟩
          rw [Value.mapping?_eq_some_iff.mpr (Option.some.inj value_eq)] at isMapping
          cases isMapping
      | some bundle =>
          obtain rfl := Value.mapping?_eq_some_iff.mp isMapping
          have named_iff :
              ((bundle.get? "name").bind trimmedText?).isSome ↔
                ∃ name, bundle.get? "name" = some name ∧ IsName name := by
            cases bundle.get? "name" with
            | none => simp
            | some name => simp [trimmedText?_isSome_iff]
          dsimp only
          split
          · rename_i named
            exact .silent ⟨bundle, rfl, named_iff.mp named⟩
          · rename_i unnamed
            refine .error (isErrorIn_errorIn ..) ?_
            rintro ⟨own, own_eq, named⟩
            obtain rfl : bundle = own := by simpa using own_eq
            exact unnamed (named_iff.mpr named)

theorem entryIssues?_judges (path : Path) (sectionName : String) (index : Nat) (entry : Value) :
    Judges path (IsModule entry) (entryIssues? path sectionName index entry) := by
  unfold entryIssues? IsModule
  dsimp only
  cases isMapping : entry.mapping? with
  | none =>
      have not_module : ¬∃ mapping : Mapping, entry = mapping.toValue ∧ mapping.Has "module" := by
        rintro ⟨mapping, entry_eq, -⟩
        rw [Value.mapping?_eq_some_iff.mpr entry_eq] at isMapping
        cases isMapping
      dsimp only
      cases entryHint? sectionName entry with
      | none => exact .broken not_module
      | some hint => exact .error (isErrorIn_errorIn ..) not_module
  | some mapping =>
      obtain rfl := Value.mapping?_eq_some_iff.mp isMapping
      dsimp only
      split
      · rename_i contains
        exact .silent ⟨mapping, rfl, (mapping.contains_iff "module").mp contains⟩
      · rename_i lacks
        refine .error (isErrorIn_errorIn ..) ?_
        rintro ⟨own, own_eq, has⟩
        obtain rfl := Mapping.toValue_inj.mp own_eq
        exact lacks ((mapping.contains_iff "module").mpr has)

theorem entriesIssues?_judges (path : Path) (sectionName : String) (index : Nat)
    (entries : List Value) :
    Judges path (∀ entry ∈ entries, IsModule entry)
      (entriesIssues? path sectionName index entries) := by
  induction entries generalizing index with
  | nil => exact .silent (by simp)
  | cons entry entries ih =>
      have here := entryIssues?_judges path sectionName index entry
      refine (here.append (ih (index + 1))).congr ?_
      rw [List.forall_mem_cons]

theorem sectionIssues?_judges (config : Mapping) (path : Path) (sectionName : String) :
    Judges path (∀ value, config.get? sectionName = some value → ListsModules value)
      (sectionIssues? config path sectionName) := by
  unfold sectionIssues? ListsModules
  cases config.get? sectionName with
  | none => exact .silent (by simp)
  | some value =>
      dsimp only
      cases items_eq : value.listItems? with
      | none => exact .error (isErrorIn_errorIn ..) (by simp [items_eq])
      | some entries =>
          refine (entriesIssues?_judges path sectionName 0 entries).congr ?_
          simp [items_eq]

theorem sectionsIssues?_judges (config : Mapping) (path : Path) (sections : List String) :
    Judges path
      (∀ sectionName ∈ sections, ∀ value,
        config.get? sectionName = some value → ListsModules value)
      (sectionsIssues? config path sections) := by
  induction sections with
  | nil => exact .silent (by simp)
  | cons sectionName sections ih =>
      have here := sectionIssues?_judges config path sectionName
      refine (here.append ih).congr ?_
      rw [List.forall_mem_cons]

end BuiltIn

namespace BuiltInCheck

/-- What a check looks for in settings. -/
def IsMet (check : BuiltInCheck) (config : Mapping) : Prop :=
  match check with
  | .frontMatterSyntax => True
  | .requiredFields => config.Has "meta" ∨ NamesBundle config
  | .moduleLists =>
    config.Has "meta" ∨
      ∀ sectionName ∈ BuiltIn.moduleSections, ∀ value,
        config.get? sectionName = some value → ListsModules value

theorem mem_all (check : BuiltInCheck) : check ∈ all := by
  cases check <;> decide

/-- The block of a check judges what the check looks for; a failure of the check is an error. -/
theorem block_judges (check : BuiltInCheck) (bundle : Bundle) :
    Judges bundle.path (check.IsMet bundle.config) (some (check.named.block bundle)) := by
  cases check with
  | frontMatterSyntax => exact .silent trivial
  | requiredFields =>
      unfold NamedCheck.block named run BuiltIn.requiredFields IsMet
      rw [← classify_eq_agent_iff]
      dsimp only
      cases classify bundle.config with
      | agent => exact .silent (.inl rfl)
      | bundle => exact (BuiltIn.nameIssues_judges bundle.config bundle.path).congr (by simp)
  | moduleLists =>
      have judges :=
        BuiltIn.sectionsIssues?_judges bundle.config bundle.path BuiltIn.moduleSections
      unfold NamedCheck.block named run BuiltIn.moduleLists IsMet
      rw [← classify_eq_agent_iff]
      dsimp only
      cases classify bundle.config with
      | agent => exact .silent (.inl rfl)
      | bundle =>
          dsimp only
          cases given : BuiltIn.sectionsIssues? bundle.config bundle.path
              BuiltIn.moduleSections with
          | none =>
              rw [given] at judges
              have fails := mt judges.silent_iff.mpr (by simp)
              exact .error ⟨rfl, rfl, rfl⟩ (by simpa using fails)
          | some issues =>
              rw [given] at judges
              exact judges.congr (by simp)

end BuiltInCheck

/-- A report that holds errors only passes exactly if it is empty. -/
theorem Report.passed_iff {report : Report}
    (all_errors : ∀ issue ∈ report.issues, issue.severity = .error) :
    report.passed = true ↔ report.issues = [] := by
  unfold passed hasErrors
  cases issues_eq : report.issues with
  | nil => simp
  | cons issue issues =>
      have blocks : issue.severity = .error := all_errors issue (by simp [issues_eq])
      simp [blocks, Severity.isBlocking]

/-- Settings are sound exactly if every check finds what it looks for. -/
theorem isSound_iff {config : Mapping} :
    IsSound config ↔ ∀ check : BuiltInCheck, check.IsMet config := by
  rw [IsSound, or_and_left]
  constructor
  · rintro ⟨named, listed⟩ check
    cases check with
    | frontMatterSyntax => trivial
    | requiredFields => exact named
    | moduleLists => exact listed
  · intro met
    exact ⟨met .requiredFields, met .moduleLists⟩

namespace Suite

theorem standard_checks (mode : CheckMode) :
    (standard []).checks mode = BuiltInCheck.all.map (·.named) := by
  cases mode with
  | fast => rfl
  | comprehensive => rfl

/-- The exception of a built-in check has a text, so it never breaks off a run. -/
theorem tells_standard (skipped : List String) (mode : CheckMode) (bundle : Bundle) :
    (standard skipped).Tells mode bundle := by
  have told (check : BuiltInCheck) (fault : TextFault) : ¬(check.run bundle).Untold fault := by
    cases check with
    | frontMatterSyntax => nofun
    | requiredFields =>
        rw [BuiltInCheck.run, BuiltIn.requiredFields]
        split <;> nofun
    | moduleLists =>
        rw [BuiltInCheck.run, BuiltIn.moduleLists]
        split
        · nofun
        · split
          · nofun
          · rintro ⟨⟨⟩⟩
  intro check member
  have named : check ∈ (standard skipped).fast := by
    cases mode with
    | fast => exact member
    | comprehensive => simpa [checks, standard] using member
  obtain ⟨own, -, rfl⟩ := List.mem_map.mp named
  exact told own

/-- The built-in checks report on every file that splits. -/
theorem run_standard {files : Files} {path : Path} {content : List Char}
    {parts : FrontMatter.Parts} (opened : openText files path = .text content)
    (parted : FrontMatter.split content = .ok parts) (skipped : List String) (mode : CheckMode) :
    (standard skipped).run files mode path =
      .ok ((standard skipped).survey mode { config := parts.config, body := parts.body, path }) :=
  run_of_tells opened parted (tells_standard skipped mode _)

/-- The built-in checks report nothing exactly about sound settings, and errors about others. -/
theorem standard_survey (mode : CheckMode) (bundle : Bundle) :
    (((standard []).survey mode bundle).issues = [] ↔ IsSound bundle.config) ∧
      ∀ issue ∈ ((standard []).survey mode bundle).issues, issue.IsErrorIn bundle.path := by
  have issues_eq : ((standard []).survey mode bundle).issues =
      BuiltInCheck.all.flatMap (·.named.block bundle) := by
    rw [survey, standard_checks, List.flatMap_map]
  rw [issues_eq]
  constructor
  · have silent_iff (check : BuiltInCheck) :
        check.named.block bundle = [] ↔ check.IsMet bundle.config := by
      simpa using (check.block_judges bundle).silent_iff
    simp only [List.flatMap_eq_nil_iff, silent_iff, BuiltInCheck.mem_all, true_imp_iff, isSound_iff]
  · intro issue member
    obtain ⟨check, -, here⟩ := List.mem_flatMap.mp member
    exact (check.block_judges bundle).all_errors _ rfl issue here

/-- The verdict of the built-in checks on a file that splits, in either mode: nothing is reported
exactly if the file passes, and the file passes exactly if its settings are sound. -/
theorem standard_verdict {files : Files} {path : Path} {content : List Char}
    {parts : FrontMatter.Parts} (opened : openText files path = .text content)
    (parted : FrontMatter.split content = .ok parts) (mode : CheckMode) :
    ∃ report, (standard []).run files mode path = .ok report ∧
      (report.issues = [] ↔ report.passed = true) ∧
      (report.passed = true ↔ IsSound parts.config) := by
  have run_eq := run_standard opened parted [] mode
  obtain ⟨sound_iff, all_errors⟩ :=
    standard_survey mode { config := parts.config, body := parts.body, path }
  have passed_iff := Report.passed_iff fun issue member => (all_errors issue member).1
  exact ⟨_, run_eq, passed_iff.symm, passed_iff.trans sound_iff⟩

theorem standard_verdict_named :
    ∃ parts report,
      openText (fun _ => .file namedText.toUTF8.toList) ⟨0, ["b.md"]⟩ = .text namedText.toList ∧
        FrontMatter.split namedText.toList = .ok parts ∧
        (standard []).run (fun _ => .file namedText.toUTF8.toList) .fast ⟨0, ["b.md"]⟩ =
          .ok report ∧
        report.issues = [] ∧ report.passed = true ∧ IsSound parts.config := by
  obtain ⟨opened, parts, parted⟩ := namedText_splits
  have passes :
      ((standard []).run (fun _ => .file namedText.toUTF8.toList) .fast
        ⟨0, ["b.md"]⟩).toOption.map Report.passed = some true := by
    decide +kernel
  obtain ⟨report, run_eq, silent_iff, sound_iff⟩ := standard_verdict opened parted .fast
  rw [run_eq] at passes
  have passed : report.passed = true := Option.some.inj passes
  exact ⟨parts, report, opened, parted, run_eq, silent_iff.mpr passed, passed,
    sound_iff.mp passed⟩

end Suite

end BundleLint
