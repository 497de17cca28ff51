import BundleLint.Proofs.Check.Relevance

/-!
# Following the hints

The hint of an issue says how to change the settings. Each change removes its issue and leaves the
others as they are, so the hints can be followed in any order until no issue is left.
-/

namespace BundleLint

theorem Text.ofString_injective : Function.Injective Text.ofString := by
  intro first second same
  have points_injective : Function.Injective CodePoint.char := fun _ _ => CodePoint.char.inj
  exact String.toList_injective (List.map_injective_iff.mpr points_injective same)

/-! ## Setting a key -/

theorem find?_insertEntry (key : String) (value : Value) (entries : List (Value × Value)) :
    ∃ held,
      ((insertEntry (.text key) value entries).find? fun entry => sameKey entry.1 (.text key)) =
        some (held, value) := by
  induction entries with
  | nil => exact ⟨.text key, by simp [insertEntry, Value.sameKey_text_iff]⟩
  | cons entry entries ih =>
      obtain ⟨held, old⟩ := entry
      rw [insertEntry]
      split
      · rename_i same
        exact ⟨held, List.find?_cons_of_pos same⟩
      · rename_i differ
        rw [List.find?_cons, Bool.eq_false_iff.mpr differ]
        exact ih

theorem find?_insertEntry_of_ne {key other : String} (differ : other ≠ key) (value : Value)
    (entries : List (Value × Value)) :
    ((insertEntry (.text key) value entries).find? fun entry => sameKey entry.1 (.text other)).map
        (·.2) =
      (entries.find? fun entry => sameKey entry.1 (.text other)).map (·.2) := by
  have key_apart : sameKey (.text key) (.text other) = false := by
    rw [Bool.eq_false_iff, ne_eq, Value.sameKey_text_iff, Value.text.injEq]
    exact fun same => differ (Text.ofString_injective same).symm
  induction entries with
  | nil => rw [insertEntry, List.find?_cons, key_apart]
  | cons entry entries ih =>
      obtain ⟨held, old⟩ := entry
      rw [insertEntry]
      split
      · rename_i same
        obtain rfl := Value.sameKey_text_iff.mp same
        rw [List.find?_cons, List.find?_cons, key_apart]
      · rw [List.find?_cons, List.find?_cons]
        split
        · rfl
        · exact ih

theorem Value.listItems?_list (items : List Value) :
    (Value.list none items).listItems? = some items :=
  congrArg some (List.map_id items)

/-- The label of a container that contains itself. -/
def Value.label? : Value → Option Nat
  | .list label _ | .map label _ => label
  | _ => none

namespace Mapping

/-- Sets the value of a text key. -/
def set (mapping : Mapping) (key : String) (value : Value) : Mapping :=
  { mapping with entries := insertEntry (.text key) value mapping.entries }

theorem has_set (mapping : Mapping) (key : String) (value : Value) :
    (mapping.set key value).Has key := by
  obtain ⟨held, found⟩ := find?_insertEntry key value mapping.entries
  rw [Has, get?, set, found]
  exact ⟨_, rfl⟩

theorem get?_of_unlabeled {mapping : Mapping} (unlabeled : mapping.label = none) (key : String) :
    mapping.get? key =
      (mapping.entries.find? fun entry => sameKey entry.1 (.text key)).map (·.2) := by
  rw [get?, unlabeled]
  rfl

theorem get?_set {mapping : Mapping} (unlabeled : mapping.label = none) (key : String)
    (value : Value) : (mapping.set key value).get? key = some value := by
  obtain ⟨held, found⟩ := find?_insertEntry key value mapping.entries
  have set_unlabeled : (mapping.set key value).label = none := unlabeled
  rw [get?_of_unlabeled set_unlabeled, set, found]
  rfl

theorem get?_set_of_ne {mapping : Mapping} (unlabeled : mapping.label = none) {key other : String}
    (differ : other ≠ key) (value : Value) :
    (mapping.set key value).get? other = mapping.get? other := by
  have set_unlabeled : (mapping.set key value).label = none := unlabeled
  rw [get?_of_unlabeled set_unlabeled, get?_of_unlabeled unlabeled, set,
    find?_insertEntry_of_ne differ]

theorem has_set_of_ne {mapping : Mapping} (unlabeled : mapping.label = none) {key other : String}
    (differ : other ≠ key) (value : Value) :
    (mapping.set key value).Has other ↔ mapping.Has other := by
  rw [Has, Has, get?_set_of_ne unlabeled differ]

theorem agreesOn_set {mapping : Mapping} (unlabeled : mapping.label = none) {key : String}
    (value : Value) {keys : List String} (apart : key ∉ keys) :
    mapping.AgreesOn (mapping.set key value) keys := by
  intro other member
  rw [get?_set_of_ne unlabeled (ne_of_mem_of_not_mem member apart)]
  exact Value.Alike.rel_refl _

/-- Settings that do not contain themselves, nor do the values of their keys. -/
structure IsUnshared (config : Mapping) : Prop where
  whole : config.label = none
  parts : ∀ key value, config.get? key = some value → value.label? = none

theorem isUnshared_of_entries {config : Mapping} (whole : config.label = none)
    (each : ∀ entry ∈ config.entries, entry.2.label? = none) : config.IsUnshared := by
  refine ⟨whole, ?_⟩
  intro key value present
  rw [get?_of_unlabeled whole] at present
  obtain ⟨entry, found, rfl⟩ := Option.map_eq_some_iff.mp present
  exact each entry (List.mem_of_find?_eq_some found)

theorem IsUnshared.set {config : Mapping} (unshared : config.IsUnshared) (key : String)
    {value : Value} (free : value.label? = none) : (config.set key value).IsUnshared := by
  refine ⟨unshared.whole, ?_⟩
  intro other held present
  by_cases same : other = key
  · rw [same, get?_set unshared.whole] at present
    obtain rfl := Option.some.inj present
    exact free
  · rw [get?_set_of_ne unshared.whole same] at present
    exact unshared.parts other held present

/-- In unshared settings the items of a list are written in it. -/
theorem IsUnshared.items {config : Mapping} (unshared : config.IsUnshared) {key : String}
    {value : Value} {items : List Value} (present : config.get? key = some value)
    (listed : value.listItems? = some items) : config.get? key = some (.list none items) := by
  obtain ⟨label, own, rfl⟩ := Value.eq_list_of_listItems? listed
  obtain rfl : label = none := unshared.parts key _ present
  rw [Value.listItems?_list] at listed
  obtain rfl := Option.some.inj listed
  exact present

end Mapping

/-! ## Issues of both checks -/

/-- The issues of the check on the name followed by those of the check on the lists of modules. -/
def Found (bundle : Bundle) (issues : List Issue) : Prop :=
  ∃ names lists, BuiltInCheck.requiredFields.run bundle = .issues names ∧
    BuiltInCheck.moduleLists.run bundle = .issues lists ∧ issues = names ++ lists

/-- A mapping that tells a module. -/
def moduleOf (value : Value) : Value :=
  .map none [(.text "module", value)]

/-- A section about a bundle with a name. -/
def namedBundle : Value :=
  .map none [(.text "name", .text "my-bundle")]

/-- Settings that are changed as the hint of an issue says. The code of the issue says what to
change, and the place in its message where. -/
inductive Issue.Followed (issue : Issue) (config : Mapping) : Mapping → Prop
  | addBundle (code_eq : issue.code = "MISSING_BUNDLE_SECTION") :
      Followed issue config (config.set "bundle" namedBundle)
  | replaceBundle (code_eq : issue.code = "INVALID_BUNDLE_SECTION") :
      Followed issue config (config.set "bundle" namedBundle)
  | nameBundle {bundle : Mapping} {name : Value} (code_eq : issue.code = "MISSING_BUNDLE_NAME")
      (held : config.get? "bundle" = some bundle.toValue) (named : IsName name) :
      Followed issue config (config.set "bundle" (bundle.set "name" name).toValue)
  | replaceList {sectionName : String} (code_eq : issue.code = "INVALID_MODULE_LIST")
      (place_read : Place.ofMessage? issue.message = some (.list sectionName))
      (modules : List Value) :
      Followed issue config (config.set sectionName (.list none (modules.map moduleOf)))
  | wrapEntry {sectionName : String} {index : Nat} {items : List Value} {entry : Value}
      (code_eq : issue.code = "INVALID_MODULE_FORMAT")
      (place_read : Place.ofMessage? issue.message = some (.entry sectionName index))
      (present : config.get? sectionName = some (.list none items))
      (held : items[index]? = some entry) :
      Followed issue config
        (config.set sectionName (.list none (items.set index (moduleOf entry))))
  | addModule {sectionName : String} {index : Nat} {items : List Value} {entry : Mapping}
      (code_eq : issue.code = "MISSING_MODULE_KEY")
      (place_read : Place.ofMessage? issue.message = some (.entry sectionName index))
      (present : config.get? sectionName = some (.list none items))
      (held : items[index]? = some entry.toValue) (value : Value) :
      Followed issue config
        (config.set sectionName (.list none (items.set index (entry.set "module" value).toValue)))

theorem isModule_moduleOf (value : Value) : IsModule (moduleOf value) :=
  ⟨⟨none, [(.text "module", value)]⟩, rfl, Mapping.has_set .empty "module" value⟩

theorem listsModules_map_moduleOf (modules : List Value) :
    ListsModules (.list none (modules.map moduleOf)) := by
  refine ⟨_, Value.listItems?_list _, ?_⟩
  intro entry member
  obtain ⟨value, -, rfl⟩ := List.mem_map.mp member
  exact isModule_moduleOf value

theorem namesBundle_set {config bundle : Mapping} (unlabeled : config.label = none)
    (bundle_unlabeled : bundle.label = none) {name : Value} (named : IsName name) :
    NamesBundle (config.set "bundle" (bundle.set "name" name).toValue) :=
  ⟨_, Mapping.get?_set unlabeled .., name, Mapping.get?_set bundle_unlabeled .., named⟩

theorem isName_myBundle : IsName (.text "my-bundle") :=
  trimmedText?_isSome_iff.mp (by decide)

theorem namesBundle_namedBundle {config : Mapping} (unlabeled : config.label = none) :
    NamesBundle (config.set "bundle" namedBundle) :=
  @namesBundle_set config .empty unlabeled rfl _ isName_myBundle

namespace BuiltIn

variable {path : Path} {sectionName : String} {config : Mapping}

theorem entryIssues?_place (listed : sectionName ∈ ["providers", "tools", "hooks"]) {index : Nat}
    {entry : Value} {issues : List Issue}
    (given : entryIssues? path sectionName index entry = some issues) :
    ∀ issue ∈ issues, Place.ofMessage? issue.message = some (.entry sectionName index) := by
  obtain ⟨defects, told, complete, -⟩ := entryIssues?_lists index entry issues given
  intro issue member
  obtain ⟨defect, found, tells⟩ := exists_of_forall₂ told member
  have place_eq := ((complete defect).mp found).place
  rw [tells.place_read (by rwa [place_eq]), place_eq]

theorem entriesIssues?_place (listed : sectionName ∈ ["providers", "tools", "hooks"]) {first : Nat}
    {entries : List Value} {issues : List Issue}
    (given : entriesIssues? path sectionName first entries = some issues) :
    ∀ issue ∈ issues, ∃ index ≥ first,
      Place.ofMessage? issue.message = some (.entry sectionName index) := by
  induction entries generalizing first issues with
  | nil =>
      cases given
      simp
  | cons entry entries ih =>
      obtain ⟨here, others, here_eq, others_eq, rfl⟩ := joined_eq_some given
      intro issue member
      rcases List.mem_append.mp member with own | later
      · exact ⟨first, le_rfl, entryIssues?_place listed here_eq issue own⟩
      · obtain ⟨index, beyond, place_read⟩ := ih others_eq issue later
        exact ⟨index, Nat.le_of_succ_le beyond, place_read⟩

theorem entryIssues?_alone {index : Nat} {entry : Value} {issues : List Issue} {issue : Issue}
    (given : entryIssues? path sectionName index entry = some issues) (member : issue ∈ issues) :
    issues = [issue] := by
  unfold entryIssues? at given
  dsimp only at given
  split at given
  · obtain ⟨hint, -, rfl⟩ := Option.map_eq_some_iff.mp given
    rw [List.mem_singleton.mp member]
  · split at given
    · cases given
      cases member
    · cases given
      rw [List.mem_singleton.mp member]

/-- A list with a module in the place of an entry has no issue about this place, and the others as
they were. -/
theorem entriesIssues?_set (listed : sectionName ∈ ["providers", "tools", "hooks"])
    {first index : Nat} {entries : List Value} {issues : List Issue} {issue : Issue} {entry : Value}
    (given : entriesIssues? path sectionName first entries = some issues) (member : issue ∈ issues)
    (place_read : Place.ofMessage? issue.message = some (.entry sectionName (first + index)))
    ( isModule : IsModule entry) :
    entriesIssues? path sectionName first (entries.set index entry) =
      some (issues.erase issue) := by
  -- The place in the message says whether the issue is about the first entry or a later one.
  induction entries generalizing first index issues with
  | nil =>
      cases given
      cases member
  | cons front entries ih =>
      obtain ⟨here, others, here_eq, others_eq, rfl⟩ := joined_eq_some given
      cases index with
      | zero =>
          have later_apart : issue ∉ others := by
            intro later
            obtain ⟨index, beyond, again⟩ := entriesIssues?_place listed others_eq issue later
            obtain ⟨-, same⟩ := Place.entry.inj (Option.some.inj (place_read.symm.trans again))
            omega
          have own : issue ∈ here := (List.mem_append.mp member).resolve_right later_apart
          obtain rfl := entryIssues?_alone here_eq own
          have silent := (entryIssues?_judges path sectionName first entry).silent_iff.mpr isModule
          rw [List.set_cons_zero, entriesIssues?, silent, others_eq, List.singleton_append,
            List.erase_cons_head]
          rfl
      | succ index =>
          have own_apart : issue ∉ here := by
            intro own
            have again := entryIssues?_place listed here_eq issue own
            obtain ⟨-, same⟩ := Place.entry.inj (Option.some.inj (place_read.symm.trans again))
            omega
          have later : issue ∈ others := (List.mem_append.mp member).resolve_left own_apart
          rw [← Nat.add_assoc, Nat.add_right_comm] at place_read
          rw [List.set_cons_succ, entriesIssues?, here_eq, ih others_eq later place_read,
            List.erase_append_right _ own_apart]
          rfl

theorem sectionIssues?_of_list {items : List Value}
    (present : config.get? sectionName = some (.list none items)) :
    sectionIssues? config path sectionName = entriesIssues? path sectionName 0 items := by
  rw [sectionIssues?, present]
  dsimp only
  rw [Value.listItems?_list]

theorem sectionIssues?_alone (listed : sectionName ∈ ["providers", "tools", "hooks"])
    {issues : List Issue} {issue : Issue}
    (given : sectionIssues? config path sectionName = some issues) (member : issue ∈ issues)
    (place_read : Place.ofMessage? issue.message = some (.list sectionName)) :
    issues = [issue] := by
  unfold sectionIssues? at given
  split at given
  · cases given
    cases member
  · split at given
    · obtain ⟨index, -, again⟩ := entriesIssues?_place listed given issue member
      rw [place_read] at again
      cases again
    · cases given
      rw [List.mem_singleton.mp member]

/-- There is at most one issue about the name of a bundle, and its hint can be followed. -/
theorem nameIssues_alone {issue : Issue} (member : issue ∈ nameIssues config path) :
    nameIssues config path = [issue] ∧ ∃ next, issue.Followed config next := by
  unfold nameIssues at member ⊢
  cases held : config.get? "bundle" with
  | none =>
      rw [held] at member
      obtain rfl := List.mem_singleton.mp member
      exact ⟨rfl, _, .addBundle rfl⟩
  | some value =>
      rw [held] at member
      dsimp only at member ⊢
      cases isMapping : value.mapping? with
      | none =>
          rw [isMapping] at member
          obtain rfl := List.mem_singleton.mp member
          exact ⟨rfl, _, .replaceBundle rfl⟩
      | some bundle =>
          obtain rfl := Value.mapping?_eq_some_iff.mp isMapping
          rw [isMapping] at member
          dsimp only at member ⊢
          split at member
          · cases member
          · rename_i unnamed
            obtain rfl := List.mem_singleton.mp member
            rw [if_neg unnamed]
            exact ⟨rfl, _, .nameBundle rfl held isName_myBundle⟩

theorem sectionsIssues?_nodup {issues : List Issue}
    (given : sectionsIssues? config path moduleSections = some issues) : issues.Nodup :=
  (sectionsIssues?_distinct given).of_map _

theorem not_mem_nameIssues {issue : Issue}
    (code_known : issue.code ∈ BuiltInCheck.moduleLists.codes) :
    issue ∉ nameIssues config path := by
  intro member
  have also_known := nameIssues_carries config path _ rfl issue member
  cases BuiltInCheck.codes_disjoint .requiredFields .moduleLists _ also_known code_known

end BuiltIn

namespace Found

open BuiltIn

variable {bundle : Bundle} {issues : List Issue} {issue : Issue}

theorem iff_of_bundle (not_agent : ¬bundle.config.Has "meta") :
    Found bundle issues ↔
      ∃ lists, sectionsIssues? bundle.config bundle.path moduleSections = some lists ∧
        issues = nameIssues bundle.config bundle.path ++ lists := by
  constructor
  · rintro ⟨names, lists, names_given, lists_given, rfl⟩
    refine ⟨lists, (moduleLists_eq_issues_iff not_agent).mp lists_given, ?_⟩
    rw [Outcome.issues.inj (names_given.symm.trans (requiredFields_of_bundle not_agent))]
  · rintro ⟨lists, found_eq, rfl⟩
    exact ⟨_, lists, requiredFields_of_bundle not_agent,
      (moduleLists_eq_issues_iff not_agent).mpr found_eq, rfl⟩

section Following

variable (not_agent : ¬bundle.config.Has "meta") (found : Found bundle issues)
  (member : issue ∈ issues)

include not_agent found member

theorem set_bundle (unlabeled : bundle.config.label = none)
    (code_known : issue.code ∈ BuiltInCheck.requiredFields.codes) {value : Value}
    (named : NamesBundle (bundle.config.set "bundle" value)) :
    Found { bundle with config := bundle.config.set "bundle" value } (issues.erase issue) := by
  obtain ⟨lists, found_eq, rfl⟩ := (iff_of_bundle not_agent).mp found
  have elsewhere : issue ∉ lists := by
    intro later
    have also_known := sectionsIssues?_carries _ _ lists found_eq issue later
    cases BuiltInCheck.codes_disjoint .requiredFields .moduleLists _ code_known also_known
  have own := (List.mem_append.mp member).resolve_right elsewhere
  obtain ⟨names_eq, -⟩ := nameIssues_alone own
  have still_not : ¬(bundle.config.set "bundle" value).Has "meta" :=
    mt (Mapping.has_set_of_ne unlabeled (by decide) value).mp not_agent
  refine (iff_of_bundle still_not).mpr ⟨lists, ?_, ?_⟩
  · rw [← found_eq]
    exact (sectionsIssues?_of_agree (Mapping.agreesOn_set unlabeled value (by decide))).symm
  · have silent := (nameIssues_judges _ bundle.path).silent_iff.mpr named
    rw [names_eq, Option.some.inj silent, List.singleton_append, List.erase_cons_head,
      List.nil_append]

/-- Setting a section removes an issue if it removes it from the block of this section. -/
theorem set_section (unlabeled : bundle.config.label = none)
    (code_known : issue.code ∈ BuiltInCheck.moduleLists.codes) {sectionName : String}
    (listed : sectionName ∈ ["providers", "tools", "hooks"])
    (about : issue.IsAbout sectionName) {value : Value}
    (block : ∀ here, sectionIssues? bundle.config bundle.path sectionName = some here →
      issue ∈ here →
      sectionIssues? (bundle.config.set sectionName value) bundle.path sectionName =
        some (here.erase issue)) :
    Found { bundle with config := bundle.config.set sectionName value } (issues.erase issue) := by
  obtain ⟨lists, found_eq, rfl⟩ := (iff_of_bundle not_agent).mp found
  have elsewhere : issue ∉ nameIssues bundle.config bundle.path := not_mem_nameIssues code_known
  have own := (List.mem_append.mp member).resolve_left elsewhere
  have agree : bundle.config.AgreesOn (bundle.config.set sectionName value)
      (["providers", "tools", "hooks"].erase sectionName) :=
    Mapping.agreesOn_set unlabeled value (List.Nodup.not_mem_erase (by decide))
  obtain ⟨before, here, after, rfl, here_eq, others, replaced⟩ :=
    sectionsIssues?_replace listed agree found_eq
  obtain ⟨before_apart, after_apart⟩ := List.forall_mem_append.mp others
  -- The issue stands in the block of its section and nowhere before it.
  have not_before : issue ∉ before := fun early => before_apart issue early about
  have in_block : issue ∈ here := by
    rcases List.mem_append.mp own with front | late
    · exact (List.mem_append.mp front).resolve_left not_before
    · exact absurd about (after_apart issue late)
  have not_meta : "meta" ≠ sectionName := by
    rintro rfl
    exact absurd listed (by decide)
  have not_bundle : sectionName ∉ ["bundle"] := by
    intro same
    rw [List.mem_singleton.mp same] at listed
    exact absurd listed (by decide)
  have still_not : ¬(bundle.config.set sectionName value).Has "meta" :=
    mt (Mapping.has_set_of_ne unlabeled not_meta value).mp not_agent
  refine (iff_of_bundle still_not).mpr ⟨before ++ here.erase issue ++ after, ?_, ?_⟩
  · rw [replaced, block here here_eq in_block]
    rfl
  · have same_names : nameIssues bundle.config bundle.path =
        nameIssues (bundle.config.set sectionName value) bundle.path :=
      nameIssues_of_agree
        (Mapping.agreesOn_set unlabeled value not_bundle "bundle" List.mem_cons_self)
    rw [← same_names, List.erase_append_right _ elsewhere, List.append_assoc,
      List.erase_append_right _ not_before, List.erase_append_left _ in_block, List.append_assoc]

theorem place_listed (code_known : issue.code ∈ BuiltInCheck.moduleLists.codes)
    {place : Place} (place_read : Place.ofMessage? issue.message = some place) :
    place.sectionName ∈ ["providers", "tools", "hooks"] := by
  obtain ⟨lists, found_eq, rfl⟩ := (iff_of_bundle not_agent).mp found
  have own := (List.mem_append.mp member).resolve_left (not_mem_nameIssues code_known)
  obtain ⟨sectionName, listed, about⟩ :=
    sectionsIssues?_about (List.Subset.refl moduleSections) found_eq issue own
  rwa [Issue.IsAbout.unique ⟨place, place_read, rfl⟩ about]

/-- Each issue can be followed. -/
theorem exists_followed (unshared : bundle.config.IsUnshared) :
    ∃ next, issue.Followed bundle.config next := by
  obtain ⟨lists, found_eq, rfl⟩ := (iff_of_bundle not_agent).mp found
  rcases List.mem_append.mp member with early | later
  · exact (nameIssues_alone early).2
  · obtain ⟨defects, told, complete, -⟩ :=
      sectionsIssues?_lists bundle.config moduleSections_ordered lists found_eq
    obtain ⟨defect, found, tells⟩ := exists_of_forall₂ told later
    obtain ⟨sectionName, listed, wrong⟩ := (complete defect).mp found
    have place_read := tells.place_read (by rwa [wrong.sectionName])
    cases wrong with
    | list => exact ⟨_, .replaceList tells.code place_read []⟩
    | entry present items held wrong =>
        have written := unshared.items present items
        cases wrong with
        | format => exact ⟨_, .wrapEntry tells.code place_read written held⟩
        | key entry_eq =>
            rw [entry_eq] at held
            exact ⟨_, .addModule tells.code place_read written held .null⟩

theorem set_entry (unlabeled : bundle.config.label = none)
    (code_known : issue.code ∈ BuiltInCheck.moduleLists.codes) {sectionName : String} {index : Nat}
    {items : List Value} {entry : Value}
    (place_read : Place.ofMessage? issue.message = some (.entry sectionName index))
    (present : bundle.config.get? sectionName = some (.list none items))
    ( isModule : IsModule entry) :
    Found
      { bundle with config := bundle.config.set sectionName (.list none (items.set index entry)) }
      (issues.erase issue) := by
  have listed : sectionName ∈ ["providers", "tools", "hooks"] :=
    found.place_listed not_agent member code_known place_read
  refine found.set_section not_agent member unlabeled code_known listed ⟨_, place_read, rfl⟩ ?_
  intro here here_eq own
  rw [sectionIssues?_of_list present] at here_eq
  rw [sectionIssues?_of_list (Mapping.get?_set unlabeled ..)]
  exact entriesIssues?_set listed here_eq own (by rwa [Nat.zero_add]) isModule

theorem set_list (unlabeled : bundle.config.label = none)
    (code_known : issue.code ∈ BuiltInCheck.moduleLists.codes) {sectionName : String}
    {value : Value}
    (place_read : Place.ofMessage? issue.message = some (.list sectionName))
    (modules : ListsModules value) :
    Found { bundle with config := bundle.config.set sectionName value } (issues.erase issue) := by
  have listed : sectionName ∈ ["providers", "tools", "hooks"] :=
    found.place_listed not_agent member code_known place_read
  refine found.set_section not_agent member unlabeled code_known listed ⟨_, place_read, rfl⟩ ?_
  intro here here_eq own
  rw [sectionIssues?_alone listed here_eq own place_read, List.erase_cons_head]
  refine (sectionIssues?_judges _ _ _).silent_iff.mpr ?_
  intro held present
  rw [Mapping.get?_set unlabeled] at present
  obtain rfl := Option.some.inj present
  exact modules

/-- Following the hint of an issue removes the issue and leaves the others. -/
theorem erase_of_followed (unshared : bundle.config.IsUnshared) {next : Mapping}
    (followed : issue.Followed bundle.config next) :
    Found { bundle with config := next } (issues.erase issue) := by
  have unlabeled := unshared.whole
  cases followed with
  | addBundle code_eq | replaceBundle code_eq =>
      exact found.set_bundle not_agent member unlabeled (by rw [code_eq]; decide)
        (namesBundle_namedBundle unlabeled)
  | @nameBundle own name code_eq held named =>
      have own_unlabeled : own.label = none := unshared.parts "bundle" _ held
      exact found.set_bundle not_agent member unlabeled (by rw [code_eq]; decide)
        (namesBundle_set unlabeled own_unlabeled named)
  | replaceList code_eq place_read modules =>
      exact found.set_list not_agent member unlabeled (by rw [code_eq]; decide) place_read
        (listsModules_map_moduleOf modules)
  | wrapEntry code_eq place_read present =>
      exact found.set_entry not_agent member unlabeled (by rw [code_eq]; decide) place_read present
        (isModule_moduleOf _)
  | @addModule sectionName index items entry code_eq place_read present held value =>
      exact found.set_entry not_agent member unlabeled (by rw [code_eq]; decide) place_read present
        ⟨entry.set "module" value, rfl, entry.has_set "module" value⟩

/-- Settings that were changed as a hint says are still those of a bundle, without sharing. -/
theorem still_bundle (unshared : bundle.config.IsUnshared) {next : Mapping}
    (followed : issue.Followed bundle.config next) : ¬next.Has "meta" ∧ next.IsUnshared := by
  have ready {key : String} {value : Value} (other : "meta" ≠ key) (free : value.label? = none) :
      ¬(bundle.config.set key value).Has "meta" ∧ (bundle.config.set key value).IsUnshared :=
    ⟨mt (Mapping.has_set_of_ne unshared.whole other value).mp not_agent, unshared.set key free⟩
  have listed {place : Place} (code_known : issue.code ∈ BuiltInCheck.moduleLists.codes)
      (place_read : Place.ofMessage? issue.message = some place) : "meta" ≠ place.sectionName :=
    (ne_of_mem_of_not_mem (found.place_listed not_agent member code_known place_read)
      (by decide)).symm
  cases followed with
  | addBundle | replaceBundle => exact ready (by decide) rfl
  | @nameBundle own name _ held =>
      have own_unlabeled : own.label = none := unshared.parts "bundle" _ held
      exact ready (by decide) own_unlabeled
  | replaceList code_eq place_read | wrapEntry code_eq place_read | addModule code_eq place_read =>
      exact ready (listed (by rw [code_eq]; decide) place_read) rfl

end Following

theorem unique {others : List Issue} (found : Found bundle issues)
    (also : Found bundle others) : issues = others := by
  obtain ⟨names, lists, names_given, lists_given, rfl⟩ := found
  obtain ⟨otherNames, otherLists, other_names_given, other_lists_given, rfl⟩ := also
  rw [Outcome.issues.inj (names_given.symm.trans other_names_given),
    Outcome.issues.inj (lists_given.symm.trans other_lists_given)]

theorem nodup (not_agent : ¬bundle.config.Has "meta") (found : Found bundle issues) :
    issues.Nodup := by
  obtain ⟨lists, found_eq, rfl⟩ := (iff_of_bundle not_agent).mp found
  refine List.nodup_append.mpr ⟨?_, ?_, ?_⟩
  · cases names_eq : nameIssues bundle.config bundle.path with
    | nil => exact List.nodup_nil
    | cons issue names =>
        have alone := (nameIssues_alone (names_eq ▸ List.mem_cons_self)).1
        rw [← names_eq, alone]
        exact List.nodup_singleton issue
  · exact sectionsIssues?_nodup found_eq
  · rintro issue early _ later rfl
    exact not_mem_nameIssues (sectionsIssues?_carries _ _ lists found_eq issue later) early

end Found

/-- Changes one after another, each of which follows the hint of an issue that is found then. -/
inductive Repairs : Bundle → List Issue → Bundle → Prop
  | done (bundle : Bundle) : Repairs bundle [] bundle
  | follow {bundle final : Bundle} {issues order : List Issue} {issue : Issue} {next : Mapping}
      (found : Found bundle issues) (member : issue ∈ issues)
      (followed : issue.Followed bundle.config next)
      (rest : Repairs { bundle with config := next } order final) :
      Repairs bundle (issue :: order) final

namespace Repairs

open BuiltIn (mixedConfig mixedConfig_not_agent mixedConfig_writable)

variable {bundle final : Bundle} {issues order : List Issue}

/-- After some changes, the issues that were followed and those that are left are the issues at
first. -/
theorem found_after (repairs : Repairs bundle order final)
    (not_agent : ¬bundle.config.Has "meta") (unshared : bundle.config.IsUnshared)
    (found : Found bundle issues) :
    ¬final.config.Has "meta" ∧ final.config.IsUnshared ∧
      ∃ rest, Found final rest ∧ (order ++ rest).Perm issues := by
  induction repairs generalizing issues with
  | done => exact ⟨not_agent, unshared, issues, found, .refl _⟩
  | follow here member followed _ ih =>
      obtain rfl := here.unique found
      obtain ⟨still_not, still_unshared⟩ :=
        found.still_bundle not_agent member unshared followed
      obtain ⟨final_not, final_unshared, rest, left, perm⟩ :=
        ih still_not still_unshared (found.erase_of_followed not_agent member unshared followed)
      exact ⟨final_not, final_unshared, rest, left,
        (perm.cons _).trans (List.perm_cons_erase member).symm⟩

/-- The issues can be followed in any order. -/
theorem of_perm (not_agent : ¬bundle.config.Has "meta") (unshared : bundle.config.IsUnshared)
    (found : Found bundle issues) (perm : order.Perm issues) :
    ∃ final, Repairs bundle order final ∧ Found final [] := by
  induction order generalizing bundle issues with
  | nil =>
      obtain rfl := List.nil_perm.mp perm
      exact ⟨bundle, .done bundle, found⟩
  | cons issue order ih =>
      obtain ⟨member, order_perm⟩ := List.cons_perm_iff_perm_erase.mp perm
      obtain ⟨next, followed⟩ := found.exists_followed not_agent member unshared
      obtain ⟨still_not, still_unshared⟩ :=
        found.still_bundle not_agent member unshared followed
      have left := found.erase_of_followed not_agent member unshared followed
      obtain ⟨final, repairs, none_left⟩ := ih still_not still_unshared left order_perm
      exact ⟨final, .follow found member followed repairs, none_left⟩

/-- Following the hint of an issue removes this issue and leaves all others as they are. Hence the
hints can be followed in any order, and after as many changes as there are issues none is left. -/
theorem exhaust (not_agent : ¬bundle.config.Has "meta") (unshared : bundle.config.IsUnshared)
    (writable : ¬ListsUnwritable bundle.config) :
    ∃ issues, Found bundle issues ∧ issues.Nodup ∧
      (∀ issue ∈ issues, (∃ next, issue.Followed bundle.config next) ∧
        ∀ next, issue.Followed bundle.config next →
          Found { bundle with config := next } (issues.erase issue)) ∧
      ∀ order final, Repairs bundle order final →
        ∃ rest, Found final rest ∧ (order ++ rest).Perm issues ∧
          (rest = [] ↔ order.length = issues.length) ∧
          ∀ later : List Issue, later.Perm rest →
            ∃ last, Repairs final later last ∧ Found last [] := by
  obtain ⟨lists, found_eq⟩ := BuiltIn.exists_sectionsIssues? writable bundle.path
  have found := (Found.iff_of_bundle not_agent).mpr ⟨lists, found_eq, rfl⟩
  refine ⟨_, found, found.nodup not_agent, ?_, ?_⟩
  · intro issue member
    exact ⟨found.exists_followed not_agent member unshared,
      fun next followed => found.erase_of_followed not_agent member unshared followed⟩
  · intro order final repairs
    obtain ⟨final_not, final_unshared, rest, left, perm⟩ :=
      repairs.found_after not_agent unshared found
    refine ⟨rest, left, perm, ?_, fun later later_perm =>
      of_perm final_not final_unshared left later_perm⟩
    have lengths := perm.length_eq
    rw [List.length_append] at lengths
    rw [← List.length_eq_zero_iff]
    omega

theorem exhaust_mixed :
    ¬mixedConfig.Has "meta" ∧ mixedConfig.IsUnshared ∧ ¬ListsUnwritable mixedConfig ∧
      ∃ (issues : List Issue) (final : Bundle),
        issues.map (·.code) =
            ["MISSING_BUNDLE_SECTION", "INVALID_MODULE_LIST", "INVALID_MODULE_FORMAT",
              "MISSING_MODULE_KEY"] ∧
          Repairs ⟨mixedConfig, [], ⟨0, ["b.md"]⟩⟩ issues.reverse final ∧ Found final [] := by
  have unshared : mixedConfig.IsUnshared := Mapping.isUnshared_of_entries rfl (by decide)
  obtain ⟨issues, found, -, -, after⟩ :=
    @exhaust ⟨mixedConfig, [], ⟨0, ["b.md"]⟩⟩ mixedConfig_not_agent unshared mixedConfig_writable
  have codes_eq : issues.map (·.code) =
      ["MISSING_BUNDLE_SECTION", "INVALID_MODULE_LIST", "INVALID_MODULE_FORMAT",
        "MISSING_MODULE_KEY"] := by
    obtain ⟨names, lists, names_given, lists_given, rfl⟩ := found
    cases names_given
    cases lists_given
    rfl
  obtain ⟨rest, left, perm, -, in_any_order⟩ := after [] _ (.done _)
  obtain ⟨final, repairs, none_left⟩ :=
    in_any_order issues.reverse (issues.reverse_perm.trans perm.symm)
  exact ⟨mixedConfig_not_agent, unshared, mixedConfig_writable, issues, final, codes_eq, repairs,
    none_left⟩

end Repairs

end BundleLint
