import BundleLint.Proofs.Check.Verdict
import Mathlib.Data.Nat.Digits.Lemmas

/-!
# Faults of the built-in checks

A built-in check breaks off for one reason only: it would show an integer in a hint that has too
many digits to be written. Then the one issue about the fault stands in the place of everything
that the check has to say about the lists of modules.
-/

namespace BundleLint

/-- An integer with more digits than can be written. -/
def IsUnwritable (value : Value) : Prop :=
  ∃ n : Int, value = .int n ∧ 4300 < (Nat.digits 10 n.natAbs).length

/-- Settings with such an integer among the entries of a section. -/
def ListsUnwritable (config : Mapping) : Prop :=
  ∃ sectionName ∈ ["providers", "tools", "hooks"], ∃ value entries,
    config.get? sectionName = some value ∧ value.listItems? = some entries ∧
      ∃ entry ∈ entries, IsUnwritable entry

theorem Number.isWritable_iff {n : Int} :
    Number.isWritable n = true ↔ (Nat.digits 10 n.natAbs).length ≤ 4300 := by
  have limit : Number.digitLimit = 4300 := rfl
  rw [← limit, Nat.digits_length_le_iff (by decide), Number.isWritable, decide_eq_true_iff,
    Nat.pow_eq]

theorem classify_eq_bundle_iff {config : Mapping} :
    classify config = .bundle ↔ ¬config.Has "meta" := by
  rw [← classify_eq_agent_iff]
  cases classify config <;> simp

theorem Value.display_int (n : Int) :
    (Value.int n).display =
      if Number.isWritable n then .ok (Text.ofString (toString n)) else .error .digits := by
  have literal_eq : (Value.int n).literal =
      if Number.isWritable n then .ok (toString n) else .error .digits := rfl
  rw [display, literal_eq]
  · split <;> rfl
  all_goals nofun

theorem Mapping.not_isUnwritable (mapping : Mapping) : ¬IsUnwritable mapping.toValue := by
  rintro ⟨n, value_eq, -⟩
  cases value_eq

namespace BuiltIn

variable {path : Path} {sectionName : String}

/-- Issues about one thing followed by those about another break off with either. -/
theorem joined_eq_none_iff {front back : Option (List Issue)} :
    (do
        let issues ← front
        let others ← back
        return issues ++ others) = none ↔ front = none ∨ back = none := by
  cases front with
  | none => simp
  | some issues => cases back <;> simp

theorem joined_eq_some {front back : Option (List Issue)} {found : List Issue}
    (given :
      (do
        let issues ← front
        let others ← back
        return issues ++ others) = some found) :
    ∃ issues others, front = some issues ∧ back = some others ∧ found = issues ++ others := by
  cases front with
  | none => cases given
  | some issues =>
      cases back with
      | none => cases given
      | some others =>
          cases given
          exact ⟨issues, others, rfl, rfl, rfl⟩

theorem entryHint?_eq_none_iff {entry : Value} :
    entryHint? sectionName entry = none ↔ IsUnwritable entry := by
  cases entry with
  | int n =>
      have writable_iff : Number.isWritable n = true ↔ _ := Number.isWritable_iff
      by_cases writable : Number.isWritable n = true
      · have short := writable_iff.mp writable
        simp [entryHint?, isShownInHint, Value.display_int, IsUnwritable, writable, short,
          Except.toOption]
      · have long := Nat.lt_of_not_le (mt writable_iff.mpr writable)
        simp [entryHint?, isShownInHint, Value.display_int, IsUnwritable, writable, long,
          Except.toOption]
  | bool b | float x =>
      refine iff_of_false (Option.some_ne_none _) ?_
      simp [IsUnwritable]
  | _ => simp [entryHint?, isShownInHint, Value.display, IsUnwritable, Except.toOption]

theorem entryIssues?_eq_none_iff {index : Nat} {entry : Value} :
    entryIssues? path sectionName index entry = none ↔ IsUnwritable entry := by
  unfold entryIssues?
  dsimp only
  cases isMapping : entry.mapping? with
  | none => rw [Option.map_eq_none_iff, entryHint?_eq_none_iff]
  | some mapping =>
      obtain rfl := Value.mapping?_eq_some_iff.mp isMapping
      dsimp only
      split
      · simpa using mapping.not_isUnwritable
      · simpa using mapping.not_isUnwritable

theorem entriesIssues?_eq_none_iff {index : Nat} {entries : List Value} :
    entriesIssues? path sectionName index entries = none ↔
      ∃ entry ∈ entries, IsUnwritable entry := by
  induction entries generalizing index with
  | nil => simp [entriesIssues?]
  | cons entry entries ih =>
      rw [entriesIssues?, joined_eq_none_iff, entryIssues?_eq_none_iff, ih]
      simp only [List.mem_cons, exists_eq_or_imp]

theorem sectionIssues?_eq_none_iff {config : Mapping} :
    sectionIssues? config path sectionName = none ↔
      ∃ value entries, config.get? sectionName = some value ∧ value.listItems? = some entries ∧
        ∃ entry ∈ entries, IsUnwritable entry := by
  unfold sectionIssues?
  cases config.get? sectionName with
  | none => simp
  | some value =>
      dsimp only
      cases items_eq : value.listItems? with
      | none => simp [items_eq]
      | some entries => simp [items_eq, entriesIssues?_eq_none_iff]

theorem sectionsIssues?_eq_none_iff {config : Mapping} {sections : List String} :
    sectionsIssues? config path sections = none ↔
      ∃ sectionName ∈ sections, ∃ value entries,
        config.get? sectionName = some value ∧ value.listItems? = some entries ∧
          ∃ entry ∈ entries, IsUnwritable entry := by
  induction sections with
  | nil => simp [sectionsIssues?]
  | cons sectionName sections ih =>
      rw [sectionsIssues?, joined_eq_none_iff, sectionIssues?_eq_none_iff, ih]
      simp only [List.mem_cons, exists_eq_or_imp]

variable {bundle : Bundle}

theorem requiredFields_of_agent (agent : bundle.config.Has "meta") :
    requiredFields bundle = .issues [] := by
  rw [requiredFields, classify_eq_agent_iff.mpr agent]

theorem requiredFields_of_bundle (not_agent : ¬bundle.config.Has "meta") :
    requiredFields bundle = .issues (nameIssues bundle.config bundle.path) := by
  rw [requiredFields, classify_eq_bundle_iff.mpr not_agent]

theorem moduleLists_of_agent (agent : bundle.config.Has "meta") :
    moduleLists bundle = .issues [] := by
  rw [moduleLists, classify_eq_agent_iff.mpr agent]

/-- The check on lists of modules gives the issues about them, or breaks off as writing these
does. -/
theorem moduleLists_of_bundle (not_agent : ¬bundle.config.Has "meta") :
    moduleLists bundle =
      match sectionsIssues? bundle.config bundle.path moduleSections with
      | some issues => .issues issues
      | none => .raised hintException := by
  have kind_eq := classify_eq_bundle_iff.mpr not_agent
  cases given : sectionsIssues? bundle.config bundle.path moduleSections with
  | none => simp only [moduleLists, kind_eq, given]
  | some issues => simp only [moduleLists, kind_eq, given]

theorem moduleLists_eq_issues_iff (not_agent : ¬bundle.config.Has "meta") {issues : List Issue} :
    moduleLists bundle = .issues issues ↔
      sectionsIssues? bundle.config bundle.path moduleSections = some issues := by
  rw [moduleLists_of_bundle not_agent]
  cases sectionsIssues? bundle.config bundle.path moduleSections <;> simp

end BuiltIn

/-- Issues with codes from a list, unless writing them breaks off. -/
def Carries (codes : List String) (issues : Option (List Issue)) : Prop :=
  ∀ found, issues = some found → ∀ issue ∈ found, issue.code ∈ codes

namespace Carries

variable {codes : List String}

theorem silent : Carries codes (some []) := by
  rintro _ ⟨⟩ issue ⟨⟩

theorem broken : Carries codes none := by
  rintro _ ⟨⟩

theorem error {path : Path} {code message : String} {hint : List CodePoint}
    (known : code ∈ codes) :
    Carries codes (some [BuiltIn.errorIn path code message hint]) := by
  rintro _ ⟨⟩ issue member
  obtain rfl := List.mem_singleton.mp member
  exact known

theorem append {front back : Option (List Issue)} (here : Carries codes front)
    (there : Carries codes back) :
    Carries codes
      (do
        let issues ← front
        let others ← back
        return issues ++ others) := by
  intro found found_eq issue member
  obtain ⟨issues, others, front_eq, back_eq, rfl⟩ := BuiltIn.joined_eq_some found_eq
  rcases List.mem_append.mp member with first | second
  · exact here issues front_eq issue first
  · exact there others back_eq issue second

end Carries

namespace BuiltInCheck

/-- The codes of the issues that a check finds. -/
def codes : BuiltInCheck → List String
  | .frontMatterSyntax => []
  | .requiredFields => ["MISSING_BUNDLE_SECTION", "INVALID_BUNDLE_SECTION", "MISSING_BUNDLE_NAME"]
  | .moduleLists => ["INVALID_MODULE_LIST", "INVALID_MODULE_FORMAT", "MISSING_MODULE_KEY"]

end BuiltInCheck

namespace BuiltIn

variable {path : Path} {sectionName : String}

theorem nameIssues_carries (config : Mapping) (path : Path) :
    Carries BuiltInCheck.requiredFields.codes (some (nameIssues config path)) := by
  unfold nameIssues
  split
  · exact .error (by decide)
  · split
    · exact .error (by decide)
    · split
      · exact .silent
      · exact .error (by decide)

theorem entryIssues?_carries (index : Nat) (entry : Value) :
    Carries BuiltInCheck.moduleLists.codes (entryIssues? path sectionName index entry) := by
  unfold entryIssues?
  dsimp only
  split
  · cases entryHint? sectionName entry with
    | none => exact .broken
    | some hint => exact .error (by decide)
  · split
    · exact .silent
    · exact .error (by decide)

theorem entriesIssues?_carries (index : Nat) (entries : List Value) :
    Carries BuiltInCheck.moduleLists.codes (entriesIssues? path sectionName index entries) := by
  induction entries generalizing index with
  | nil => exact .silent
  | cons entry entries ih => exact (entryIssues?_carries index entry).append (ih (index + 1))

theorem sectionIssues?_carries (config : Mapping) (sectionName : String) :
    Carries BuiltInCheck.moduleLists.codes (sectionIssues? config path sectionName) := by
  unfold sectionIssues?
  split
  · exact .silent
  · split
    · exact entriesIssues?_carries 0 _
    · exact .error (by decide)

theorem sectionsIssues?_carries (config : Mapping) (sections : List String) :
    Carries BuiltInCheck.moduleLists.codes (sectionsIssues? config path sections) := by
  induction sections with
  | nil => exact .silent
  | cons sectionName sections ih => exact (sectionIssues?_carries config sectionName).append ih

end BuiltIn

namespace BuiltInCheck

/-- No check finds anything in the file of an agent. -/
theorem run_of_agent (check : BuiltInCheck) {bundle : Bundle} (agent : bundle.config.Has "meta") :
    check.run bundle = .issues [] := by
  cases check with
  | frontMatterSyntax => rfl
  | requiredFields => exact BuiltIn.requiredFields_of_agent agent
  | moduleLists => exact BuiltIn.moduleLists_of_agent agent

/-- The issues that a check gives carry its codes. -/
theorem run_carries {check : BuiltInCheck} {bundle : Bundle} {issues : List Issue}
    (given : check.run bundle = .issues issues) : ∀ issue ∈ issues, issue.code ∈ check.codes := by
  by_cases agent : bundle.config.Has "meta"
  · rw [check.run_of_agent agent] at given
    cases given
    exact Carries.silent _ rfl
  · cases check with
    | frontMatterSyntax =>
        cases given
        exact Carries.silent _ rfl
    | requiredFields =>
        rw [run, BuiltIn.requiredFields_of_bundle agent] at given
        cases given
        exact BuiltIn.nameIssues_carries bundle.config bundle.path _ rfl
    | moduleLists =>
        have found_eq := (BuiltIn.moduleLists_eq_issues_iff agent).mp given
        exact BuiltIn.sectionsIssues?_carries bundle.config BuiltIn.moduleSections _ found_eq

/-- Whether a check breaks off: the one on lists of modules does when it meets an integer that
cannot be written. -/
def Breaks (check : BuiltInCheck) (config : Mapping) : Prop :=
  check = .moduleLists ∧ ¬config.Has "meta" ∧ ListsUnwritable config

/-- A check gives a list of issues unless it breaks off, and then the exception is known. -/
theorem run_cases (check : BuiltInCheck) (bundle : Bundle) :
    (¬check.Breaks bundle.config ∧ ∃ issues, check.run bundle = .issues issues) ∨
      (check.Breaks bundle.config ∧ check.run bundle = .raised BuiltIn.hintException) := by
  by_cases agent : bundle.config.Has "meta"
  · exact .inl ⟨fun breaks => breaks.2.1 agent, _, check.run_of_agent agent⟩
  · cases check with
    | frontMatterSyntax => exact .inl ⟨(nomatch ·.1), _, rfl⟩
    | requiredFields => exact .inl ⟨(nomatch ·.1), _, BuiltIn.requiredFields_of_bundle agent⟩
    | moduleLists =>
        have run_eq := BuiltIn.moduleLists_of_bundle agent
        have breaks_off :
            BuiltIn.sectionsIssues? bundle.config bundle.path BuiltIn.moduleSections = none ↔
              ListsUnwritable bundle.config :=
          BuiltIn.sectionsIssues?_eq_none_iff
        cases given : BuiltIn.sectionsIssues? bundle.config bundle.path
            BuiltIn.moduleSections with
        | some issues =>
            have writable := mt breaks_off.mpr (by simp [given])
            rw [given] at run_eq
            exact .inl ⟨fun breaks => writable breaks.2.2, _, run_eq⟩
        | none =>
            rw [given] at run_eq
            exact .inr ⟨⟨rfl, agent, breaks_off.mp given⟩, run_eq⟩

/-- What a check adds to a report: a list of issues with its codes, or the error about its
exception. -/
theorem block_cases (check : BuiltInCheck) (bundle : Bundle) :
    (¬check.Breaks bundle.config ∧ check.run bundle = .issues (check.named.block bundle) ∧
      ∀ issue ∈ check.named.block bundle, issue.code ∈ check.codes) ∨
      (check.Breaks bundle.config ∧
        check.named.block bundle =
          [internalError check.name bundle.path "ValueError" Number.unwritableMessage]) := by
  rcases check.run_cases bundle with ⟨runs, issues, given⟩ | ⟨breaks, raised⟩
  · have block_eq : check.named.block bundle = issues := by
      rw [NamedCheck.block, show check.named.run bundle = .issues issues from given]
    rw [block_eq]
    exact .inl ⟨runs, given, run_carries given⟩
  · refine .inr ⟨breaks, ?_⟩
    rw [NamedCheck.block, show check.named.run bundle = .raised _ from raised]
    rfl

/-- The code of the error that stands for an exception belongs to no check. -/
theorem internalError_not_mem_codes (check : BuiltInCheck) :
    "CHECK_INTERNAL_ERROR" ∉ check.codes := by
  cases check <;> decide

theorem codes_disjoint (check other : BuiltInCheck) :
    ∀ code ∈ check.codes, code ∈ other.codes → check = other := by
  cases check <;> cases other <;> decide

end BuiltInCheck

namespace BuiltIn

variable {path : Path} {sectionName : String}

/-- Among some issues is one whose message begins with the place of an entry. -/
def Tells (issues : List Issue) (sectionName : String) (index : Nat) : Prop :=
  ∃ issue ∈ issues, ∃ rest, issue.message = entryLocation sectionName index ++ rest

theorem Tells.of_subset {issues all : List Issue} {index : Nat}
    (tells : Tells issues sectionName index) (subset : issues ⊆ all) :
    Tells all sectionName index := by
  obtain ⟨issue, member, told⟩ := tells
  exact ⟨issue, subset member, told⟩

theorem entryIssues?_tells {index : Nat} {entry : Value} {issues : List Issue}
    (given : entryIssues? path sectionName index entry = some issues) (defect : ¬IsModule entry) :
    Tells issues sectionName index := by
  unfold entryIssues? at given
  dsimp only at given
  cases isMapping : entry.mapping? with
  | none =>
      rw [isMapping] at given
      obtain ⟨hint, -, rfl⟩ := Option.map_eq_some_iff.mp given
      refine ⟨_, List.mem_singleton_self _,
        " must be a mapping with a 'module' key (got " ++ (entry.authorName ++ ")"), ?_⟩
      simp only [errorIn, String.append_assoc]
  | some mapping =>
      rw [isMapping] at given
      obtain rfl := Value.mapping?_eq_some_iff.mp isMapping
      dsimp only at given
      split at given
      · rename_i contains
        exact absurd ⟨mapping, rfl, (mapping.contains_iff "module").mp contains⟩ defect
      · cases given
        exact ⟨_, List.mem_singleton_self _, _, rfl⟩

/-- Each entry that is no module is told, whatever stands before and after it. -/
theorem entriesIssues?_tells {first place : Nat} {entries : List Value} {entry : Value}
    {issues : List Issue} (given : entriesIssues? path sectionName first entries = some issues)
    (held : entries[place]? = some entry) (defect : ¬IsModule entry) :
    Tells issues sectionName (first + place) := by
  induction entries generalizing first place issues with
  | nil => cases held
  | cons front entries ih =>
      obtain ⟨here, others, here_eq, others_eq, rfl⟩ := joined_eq_some given
      cases place with
      | zero =>
          obtain rfl : front = entry := by simpa using held
          exact (entryIssues?_tells here_eq defect).of_subset (List.subset_append_left ..)
      | succ place =>
          have later := ih others_eq (by simpa using held)
          rw [Nat.add_right_comm, Nat.add_assoc] at later
          exact later.of_subset (List.subset_append_right ..)

theorem sectionsIssues?_tells {config : Mapping} {sections : List String} {value entry : Value}
    {entries : List Value} {place : Nat} {issues : List Issue}
    (given : sectionsIssues? config path sections = some issues)
    (listed : sectionName ∈ sections) (present : config.get? sectionName = some value)
    (items_eq : value.listItems? = some entries) (held : entries[place]? = some entry)
    (defect : ¬IsModule entry) : Tells issues sectionName place := by
  induction sections generalizing issues with
  | nil => cases listed
  | cons front sections ih =>
      obtain ⟨here, others, here_eq, others_eq, rfl⟩ := joined_eq_some given
      rcases List.mem_cons.mp listed with rfl | later
      · unfold sectionIssues? at here_eq
        rw [present] at here_eq
        dsimp only at here_eq
        rw [items_eq] at here_eq
        have told := entriesIssues?_tells here_eq held defect
        rw [Nat.zero_add] at told
        exact told.of_subset (List.subset_append_left ..)
      · exact (ih others_eq later).of_subset (List.subset_append_right ..)

end BuiltIn

namespace Suite

theorem standard_checks_skipping (skipped : List String) (mode : CheckMode) :
    (standard skipped).checks mode =
      (BuiltInCheck.all.filter fun check => !skipped.contains check.name).map (·.named) := by
  cases mode with
  | fast => rfl
  | comprehensive => exact List.append_nil _

/-- The issues of the built-in checks are those of the checks that are not skipped. -/
theorem mem_standard_issues {skipped : List String} {mode : CheckMode} {bundle : Bundle}
    {issue : Issue} :
    issue ∈ ((standard skipped).survey mode bundle).issues ↔
      ∃ check : BuiltInCheck, check.name ∉ skipped ∧ issue ∈ check.named.block bundle := by
  rw [survey, standard_checks_skipping]
  simp [BuiltInCheck.mem_all]

variable {skipped : List String} {mode : CheckMode} (bundle : Bundle)

/-- An error about an exception is reported exactly if a check that is not skipped breaks off. -/
theorem standard_faults :
    (∃ issue ∈ ((standard skipped).survey mode bundle).issues,
      issue.code = "CHECK_INTERNAL_ERROR") ↔
      ∃ check : BuiltInCheck, check.name ∉ skipped ∧ check.Breaks bundle.config := by
  simp only [mem_standard_issues]
  constructor
  · rintro ⟨issue, ⟨check, runs, member⟩, code_eq⟩
    rcases check.block_cases bundle with ⟨-, -, known⟩ | ⟨breaks, -⟩
    · have own_code := known issue member
      rw [code_eq] at own_code
      exact absurd own_code check.internalError_not_mem_codes
    · exact ⟨check, runs, breaks⟩
  · rintro ⟨check, runs, breaks⟩
    rcases check.block_cases bundle with ⟨unbroken, -⟩ | ⟨-, block_eq⟩
    · exact absurd breaks unbroken
    · have member := List.mem_singleton_self
        (internalError check.name bundle.path "ValueError" Number.unwritableMessage)
      rw [← block_eq] at member
      exact ⟨_, ⟨check, runs, member⟩, rfl⟩

/-- A check that breaks off reports nothing of what it looks for. -/
theorem standard_hides {check : BuiltInCheck} (breaks : check.Breaks bundle.config) :
    ∀ issue ∈ ((standard skipped).survey mode bundle).issues, issue.code ∉ check.codes := by
  intro issue member own_code
  obtain ⟨other, -, here⟩ := mem_standard_issues.mp member
  rcases other.block_cases bundle with ⟨unbroken, -, known⟩ | ⟨-, block_eq⟩
  · obtain rfl : other = check := other.codes_disjoint check _ (known issue here) own_code
    exact unbroken breaks
  · rw [block_eq] at here
    obtain rfl := List.mem_singleton.mp here
    exact check.internalError_not_mem_codes own_code

/-- A check on lists of modules that does not break off tells each entry that is no module. -/
theorem standard_tells {bundle : Bundle} {sectionName : String} {value entry : Value}
    {entries : List Value} {index : Nat} (runs : "module_list_format" ∉ skipped)
    (not_agent : ¬bundle.config.Has "meta") (writable : ¬ListsUnwritable bundle.config)
    (listed : sectionName ∈ ["providers", "tools", "hooks"])
    (present : bundle.config.get? sectionName = some value)
    (items_eq : value.listItems? = some entries) (held : entries[index]? = some entry)
    (defect : ¬IsModule entry) :
    BuiltIn.Tells ((standard skipped).survey mode bundle).issues sectionName index := by
  rcases BuiltInCheck.moduleLists.block_cases bundle with ⟨-, given, -⟩ | ⟨breaks, -⟩
  · have found_eq := (BuiltIn.moduleLists_eq_issues_iff not_agent).mp given
    refine (BuiltIn.sectionsIssues?_tells found_eq listed present items_eq held defect).of_subset ?_
    intro issue member
    exact mem_standard_issues.mpr ⟨.moduleLists, runs, member⟩
  · exact absurd breaks.2.2 writable

/-- The built-in checks on a file that splits, for any skipped names and in either mode. The one
check that can break off is the check on lists of modules, on an entry that is an integer with too
many digits, and this costs every other issue about these lists. If it does not, then each entry
that is no module has an issue. -/
theorem standard_faults_iff {files : Files} {path : Path} {content : List Char}
    {parts : FrontMatter.Parts} (opened : openText files path = .text content)
    (parted : FrontMatter.split content = .ok parts) (skipped : List String) (mode : CheckMode) :
    (∀ check : BuiltInCheck,
      (∃ issues,
        check.run { config := parts.config, body := parts.body, path } = .issues issues) ∨
        check = .moduleLists ∧ ¬parts.config.Has "meta" ∧ ListsUnwritable parts.config) ∧
      ∃ report, (standard skipped).run files mode path = .ok report ∧
        ((∃ issue ∈ report.issues, issue.code = "CHECK_INTERNAL_ERROR") ↔
          "module_list_format" ∉ skipped ∧ ¬parts.config.Has "meta" ∧
            ListsUnwritable parts.config) ∧
        (¬parts.config.Has "meta" → ListsUnwritable parts.config →
          ∀ issue ∈ report.issues,
            issue.code ∉ ["INVALID_MODULE_LIST", "INVALID_MODULE_FORMAT", "MISSING_MODULE_KEY"]) ∧
        ("module_list_format" ∉ skipped → ¬parts.config.Has "meta" →
          ¬ListsUnwritable parts.config →
            ∀ sectionName ∈ ["providers", "tools", "hooks"], ∀ value entries,
              parts.config.get? sectionName = some value → value.listItems? = some entries →
                ∀ (index : Nat) (entry : Value), entries[index]? = some entry →
                  ¬IsModule entry → ∃ issue ∈ report.issues, ∃ rest,
                    issue.message = sectionName ++ "[" ++ toString index ++ "]" ++ rest) := by
  refine ⟨?_, _, run_standard opened parted skipped mode, ?_, ?_, ?_⟩
  · intro check
    rcases check.run_cases { config := parts.config, body := parts.body, path } with
      ⟨-, given⟩ | ⟨breaks, -⟩
    · exact .inl given
    · exact .inr breaks
  · rw [standard_faults]
    constructor
    · rintro ⟨check, runs, rfl, breaks⟩
      exact ⟨runs, breaks⟩
    · rintro ⟨runs, breaks⟩
      exact ⟨.moduleLists, runs, rfl, breaks⟩
  · intro not_agent unwritable
    have breaks : BuiltInCheck.moduleLists.Breaks parts.config := ⟨rfl, not_agent, unwritable⟩
    exact standard_hides { config := parts.config, body := parts.body, path } breaks
  · intro runs not_agent writable sectionName listed value entries present items_eq index entry
      held defect
    exact standard_tells runs not_agent writable listed present items_eq held defect

/-- A bundle with two tools: an integer of 4301 digits, and a text, which is no module either. -/
def longIntegerText : List Char :=
  "---\nbundle:\n  name: x\ntools:\n- 0x2".toList ++ List.replicate 3571 '0' ++
    "\n- y\n---\n".toList

/-- The bytes of the text. -/
def longIntegerFile : Files := fun _ => .file (longIntegerText.map fun c => c.toNat.toUInt8)

set_option maxRecDepth 40000 in
theorem openText_longIntegerFile :
    openText longIntegerFile ⟨0, ["b.md"]⟩ = .text longIntegerText := by
  decide +kernel

set_option maxRecDepth 40000 in
theorem split_longIntegerText :
    ∃ parts, FrontMatter.split longIntegerText = .ok parts ∧ ¬parts.config.Has "meta" ∧
      ListsUnwritable parts.config := by
  have breaks :
      (match FrontMatter.split longIntegerText with
      | .ok parts =>
        !parts.config.contains "meta" &&
          (BuiltIn.sectionsIssues? parts.config ⟨0, []⟩ BuiltIn.moduleSections).isNone
      | .error _ => false) = true := by
    decide +kernel
  split at breaks
  · rename_i parts parted
    simp only [Bool.and_eq_true, Bool.not_eq_true', Option.isNone_iff_eq_none] at breaks
    obtain ⟨not_agent, found_eq⟩ := breaks
    refine ⟨parts, parted, ?_, BuiltIn.sectionsIssues?_eq_none_iff.mp found_eq⟩
    rw [← Mapping.contains_iff, not_agent]
    decide
  · cases breaks

theorem standard_faults_iff_longInteger :
    ∃ report,
      openText longIntegerFile ⟨0, ["b.md"]⟩ = .text longIntegerText ∧
        (standard ["required_fields"]).run longIntegerFile .comprehensive ⟨0, ["b.md"]⟩ =
          .ok report ∧
        (∃ issue ∈ report.issues, issue.code = "CHECK_INTERNAL_ERROR") ∧
        ∀ issue ∈ report.issues,
          issue.code ∉ ["INVALID_MODULE_LIST", "INVALID_MODULE_FORMAT", "MISSING_MODULE_KEY"] := by
  obtain ⟨parts, parted, not_agent, unwritable⟩ := split_longIntegerText
  obtain ⟨-, report, run_eq, faults_iff, hides, -⟩ :=
    standard_faults_iff openText_longIntegerFile parted ["required_fields"] .comprehensive
  exact ⟨report, openText_longIntegerFile, run_eq,
    faults_iff.mpr ⟨by decide, not_agent, unwritable⟩, hides not_agent unwritable⟩

theorem standard_faults_longInteger :
    ¬∀ (files : Files) (path : Path) (content : List Char) (parts : FrontMatter.Parts)
        (skipped : List String) (mode : CheckMode),
      openText files path = .text content → FrontMatter.split content = .ok parts →
        ∃ report, (standard skipped).run files mode path = .ok report ∧
          ∀ issue ∈ report.issues, issue.code ≠ "CHECK_INTERNAL_ERROR" := by
  intro never_faults
  obtain ⟨parts, parted, not_agent, unwritable⟩ := split_longIntegerText
  obtain ⟨report, run_eq, faultless⟩ :=
    never_faults _ _ _ parts [] .fast openText_longIntegerFile parted
  rw [run_standard openText_longIntegerFile parted] at run_eq
  cases run_eq
  obtain ⟨issue, member, code_eq⟩ :=
    (standard_faults { config := parts.config, body := parts.body, path := ⟨0, ["b.md"]⟩ }).mpr
      ⟨.moduleLists, List.not_mem_nil, rfl, not_agent, unwritable⟩
  exact faultless issue member code_eq

end Suite

end BundleLint
