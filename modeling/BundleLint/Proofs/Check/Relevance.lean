import BundleLint.Proofs.Check.Defect
import BundleLint.Proofs.Outcome
import Mathlib.Data.List.Find

/-!
# What the built-in checks depend on

The built-in checks read four keys of the settings and whether there is the key of an agent. The
order of entries, in the settings and inside the values of these keys, does not matter to them, nor
does anything else in the settings or after them. Each section decides its own issues only.
-/

namespace BundleLint

theorem related_cases {Left Right : Type} {Related : Left → Right → Prop} {left : Option Left}
    {right : Option Right} (related : Option.Rel Related left right) :
    (left = none ∧ right = none) ∨
      ∃ first second, left = some first ∧ right = some second ∧ Related first second := by
  cases related with
  | none => exact .inl ⟨rfl, rfl⟩
  | some here => exact .inr ⟨_, _, rfl, rfl, here⟩

/-- The entries of a mapping, with values of their own. -/
def Mapping.members (mapping : Mapping) : List (Value × Value) :=
  mapping.entries.map fun entry => (entry.1, Value.part mapping.label mapping.toValue entry.2)

namespace Value

/-- Two values have the same form, up to the order of entries and of elements, and their parts are
alike. -/
inductive AlikeAt (alike : Value → Value → Prop) : Value → Value → Prop
  | same (value : Value) : AlikeAt alike value value
  | list {left right : Value} {items others : List Value}
      (left_items : left.listItems? = some items) (right_items : right.listItems? = some others)
      (each : List.Forall₂ alike items others) : AlikeAt alike left right
  | mapping {left right : Value} {first second : Mapping} {arranged : List (Value × Value)}
      (left_mapping : left.mapping? = some first) (right_mapping : right.mapping? = some second)
      (distinct : second.members.Pairwise fun entry later => ¬sameKey entry.1 later.1)
      (order : second.members.Perm arranged)
      (each : List.Forall₂ (fun entry other => entry.1 = other.1 ∧ alike entry.2 other.2)
        first.members arranged) :
      AlikeAt alike left right
  | tuple {items others : List Value} (each : List.Forall₂ alike items others) :
      AlikeAt alike (.tuple items) (.tuple others)
  | set {elements others : List Value} (order : elements.Perm others) :
      AlikeAt alike (.set elements) (.set others)

/-- Two values are the same up to the order of entries in mappings and of elements in sets. Values
that contain themselves are compared as deep as one looks. -/
def Alike (left right : Value) : Prop :=
  ∃ alike : Value → Value → Prop,
    (∀ first second, alike first second → AlikeAt alike first second) ∧ alike left right

theorem AlikeAt.imp {alike other : Value → Value → Prop} {left right : Value}
    (form : AlikeAt alike left right)
    (weaker : ∀ first second, alike first second → other first second) :
    AlikeAt other left right := by
  cases form with
  | same => exact .same _
  | list left_items right_items each => exact .list left_items right_items (each.imp weaker)
  | mapping left_mapping right_mapping distinct order each =>
      refine .mapping left_mapping right_mapping distinct order (each.imp ?_)
      intro entry other related
      exact ⟨related.1, weaker _ _ related.2⟩
  | tuple each => exact .tuple (each.imp weaker)
  | set order => exact .set order

namespace Alike

theorem refl (value : Value) : Alike value value :=
  ⟨Eq, fun _ _ same => same ▸ .same _, rfl⟩

theorem form {left right : Value} (alike : Alike left right) : AlikeAt Alike left right := by
  obtain ⟨related, closed, here⟩ := alike
  exact (closed _ _ here).imp fun _ _ below => ⟨related, closed, below⟩

theorem rel_refl (held : Option Value) : Option.Rel Alike held held := by
  cases held with
  | none => exact .none
  | some value => exact .some (refl value)

theorem of_form {left right : Value} (form : AlikeAt Alike left right) : Alike left right :=
  ⟨AlikeAt Alike, fun _ _ here => here.imp fun _ _ below => below.form, form⟩

end Alike

theorem sameKey_text_iff {value : Value} {text : List CodePoint} :
    sameKey value (.text text) = true ↔ value = .text text := by
  cases value <;> simp [sameKey, integer?]

theorem eq_list_of_listItems? {value : Value} {items : List Value}
    (given : value.listItems? = some items) : ∃ label own, value = .list label own := by
  cases value with
  | list label own => exact ⟨label, own, rfl⟩
  | _ => cases given

end Value

open Value (Alike AlikeAt)

namespace Mapping

theorem get?_eq_members (mapping : Mapping) (key : String) :
    mapping.get? key =
      (mapping.members.find? fun entry => sameKey entry.1 (.text key)).map (·.2) := by
  rw [members, List.find?_map, Option.map_map]
  rfl

/-- At most one entry of a mapping with distinct keys has a key that is a text. -/
theorem find?_of_order {entries arranged : List (Value × Value)} (key : String)
    (distinct : entries.Pairwise fun entry later => ¬sameKey entry.1 later.1)
    (order : entries.Perm arranged) :
    (entries.find? fun entry => sameKey entry.1 (.text key)) =
      arranged.find? fun entry => sameKey entry.1 (.text key) := by
  refine List.find?_eq_find?_of_perm order ?_
  -- Two keys that are this text are the same key.
  have apart : entries.Pairwise fun entry later =>
      ¬(entry.1 = .text key ∧ later.1 = .text key) := by
    refine distinct.imp ?_
    rintro entry later differ ⟨entry_key, later_key⟩
    rw [entry_key, later_key, Value.sameKey_text_iff] at differ
    exact differ rfl
  have symmetric : Std.Symm fun entry later : Value × Value =>
      ¬(entry.1 = .text key ∧ later.1 = .text key) :=
    ⟨fun _ _ apart both => apart both.symm⟩
  rintro entry ⟨member, entry_found⟩ later ⟨later_member, later_found⟩
  by_contra differ
  refine apart.forall member later_member differ ⟨?_, ?_⟩
  · exact Value.sameKey_text_iff.mp entry_found
  · exact Value.sameKey_text_iff.mp later_found

theorem find?_of_related {alike : Value → Value → Prop} (holds : Value → Bool)
    {entries others : List (Value × Value)}
    (each : List.Forall₂ (fun entry other => entry.1 = other.1 ∧ alike entry.2 other.2)
      entries others) :
    Option.Rel alike ((entries.find? fun entry => holds entry.1).map (·.2))
      ((others.find? fun entry => holds entry.1).map (·.2)) := by
  induction each with
  | nil => exact .none
  | @cons entry other entries others related _ ih =>
      obtain ⟨key_eq, value_alike⟩ := related
      rw [List.find?_cons, List.find?_cons, ← key_eq]
      cases holds entry.1 with
      | true => exact .some value_alike
      | false => exact ih

end Mapping

namespace Value.Alike

variable {left right : Value}

theorem listItems? (alike : Alike left right) :
    Option.Rel (List.Forall₂ Alike) left.listItems? right.listItems? := by
  cases alike.form with
  | same =>
      cases left.listItems? with
      | none => exact .none
      | some items => exact .some (List.forall₂_same.mpr fun item _ => .refl item)
  | list left_items right_items each =>
      rw [left_items, right_items]
      exact .some each
  | mapping left_mapping right_mapping =>
      obtain rfl := mapping?_eq_some_iff.mp left_mapping
      obtain rfl := mapping?_eq_some_iff.mp right_mapping
      exact .none
  | tuple | set => exact .none

theorem mapping? (alike : Alike left right) :
    Option.Rel (fun first second => ∀ key, Option.Rel Alike (first.get? key) (second.get? key))
      left.mapping? right.mapping? := by
  cases alike.form with
  | same =>
      cases left.mapping? with
      | none => exact .none
      | some mapping => exact .some fun key => rel_refl _
  | list left_items right_items =>
      obtain ⟨_, _, rfl⟩ := eq_list_of_listItems? left_items
      obtain ⟨_, _, rfl⟩ := eq_list_of_listItems? right_items
      exact .none
  | mapping left_mapping right_mapping distinct order each =>
      rw [left_mapping, right_mapping]
      refine .some fun key => ?_
      rw [Mapping.get?_eq_members, Mapping.get?_eq_members,
        Mapping.find?_of_order key distinct order]
      exact Mapping.find?_of_related (fun held => sameKey held (.text key)) each
  | tuple | set => exact .none

/-- Values that are alike have the same type, and are equal if they have no parts. -/
theorem scalar (alike : Alike left right) :
    left.authorName = right.authorName ∧
      (left = right ∨ BuiltIn.isShownInHint left = false ∧ BuiltIn.isShownInHint right = false ∧
        left.text? = none ∧ right.text? = none) := by
  cases alike.form with
  | same => exact ⟨rfl, .inl rfl⟩
  | list left_items right_items =>
      obtain ⟨_, _, rfl⟩ := eq_list_of_listItems? left_items
      obtain ⟨_, _, rfl⟩ := eq_list_of_listItems? right_items
      exact ⟨rfl, .inr ⟨rfl, rfl, rfl, rfl⟩⟩
  | mapping left_mapping right_mapping =>
      obtain rfl := mapping?_eq_some_iff.mp left_mapping
      obtain rfl := mapping?_eq_some_iff.mp right_mapping
      exact ⟨rfl, .inr ⟨rfl, rfl, rfl, rfl⟩⟩
  | tuple | set => exact ⟨rfl, .inr ⟨rfl, rfl, rfl, rfl⟩⟩

theorem trimmedText?_eq (alike : Alike left right) : trimmedText? left = trimmedText? right := by
  obtain ⟨-, rfl | ⟨-, -, left_free, right_free⟩⟩ := alike.scalar
  · rfl
  · rw [trimmedText?, trimmedText?, left_free, right_free]

end Value.Alike

namespace Mapping

/-- Settings whose values for some keys are alike, where there are any. -/
def AgreesOn (config other : Mapping) (keys : List String) : Prop :=
  ∀ key ∈ keys, Option.Rel Alike (config.get? key) (other.get? key)

theorem contains_of_related {first second : Mapping}
    (related : ∀ key, Option.Rel Alike (first.get? key) (second.get? key)) (key : String) :
    first.contains key = second.contains key := by
  rw [Bool.eq_iff_iff, contains_iff, contains_iff, Has, Has]
  rcases related_cases (related key) with
    ⟨first_lacks, second_lacks⟩ | ⟨value, other, first_held, second_held, -⟩
  · rw [first_lacks, second_lacks]
  · simp [first_held, second_held]

end Mapping

/-- An issue whose message begins with a place in a section. -/
def Issue.IsAbout (issue : Issue) (sectionName : String) : Prop :=
  ∃ place, Place.ofMessage? issue.message = some place ∧ place.sectionName = sectionName

theorem Issue.IsAbout.unique {issue : Issue} {sectionName other : String}
    (about : issue.IsAbout sectionName) (also : issue.IsAbout other) : sectionName = other := by
  obtain ⟨place, place_read, rfl⟩ := about
  obtain ⟨again, again_read, rfl⟩ := also
  rw [Option.some.inj (place_read.symm.trans again_read)]

namespace BuiltIn

variable {path : Path} {sectionName : String} {config other : Mapping} {left right : Value}

theorem nameIssues_of_agree
    (agree : Option.Rel Alike (config.get? "bundle") (other.get? "bundle")) :
    nameIssues config path = nameIssues other path := by
  unfold nameIssues
  rcases related_cases agree with ⟨lacks, other_lacks⟩ | ⟨value, again, held, other_held, alike⟩
  · rw [lacks, other_lacks]
  · rw [held, other_held]
    dsimp only
    rw [alike.scalar.1]
    rcases related_cases alike.mapping? with
      ⟨no_mapping, no_other⟩ | ⟨bundle, otherBundle, bundle_eq, other_eq, related⟩
    · rw [no_mapping, no_other]
    · rw [bundle_eq, other_eq]
      dsimp only
      have name_eq :
          (bundle.get? "name").bind trimmedText? = (otherBundle.get? "name").bind trimmedText? := by
        rcases related_cases (related "name") with
          ⟨unnamed, other_unnamed⟩ | ⟨name, otherName, named, other_named, same⟩
        · rw [unnamed, other_unnamed]
        · rw [named, other_named]
          exact same.trimmedText?_eq
      rw [name_eq]

theorem entryHint?_of_alike (alike : Alike left right) :
    entryHint? sectionName left = entryHint? sectionName right := by
  obtain ⟨-, rfl | ⟨left_hidden, right_hidden, -⟩⟩ := alike.scalar
  · rfl
  · rw [entryHint?, entryHint?, left_hidden, right_hidden]
    rfl

theorem entryIssues?_of_alike (alike : Alike left right) (index : Nat) :
    entryIssues? path sectionName index left = entryIssues? path sectionName index right := by
  have author_eq := alike.scalar.1
  have hint_eq : entryHint? sectionName left = entryHint? sectionName right :=
    entryHint?_of_alike alike
  unfold entryIssues?
  rw [author_eq, hint_eq]
  rcases related_cases alike.mapping? with
    ⟨no_mapping, no_other⟩ | ⟨entry, other, entry_eq, other_eq, related⟩
  · rw [no_mapping, no_other]
  · rw [entry_eq, other_eq]
    dsimp only
    rw [Mapping.contains_of_related related]

theorem entriesIssues?_of_alike {entries others : List Value}
    (each : List.Forall₂ Alike entries others) (index : Nat) :
    entriesIssues? path sectionName index entries =
      entriesIssues? path sectionName index others := by
  induction each generalizing index with
  | nil => rfl
  | cons alike _ ih => rw [entriesIssues?, entriesIssues?, entryIssues?_of_alike alike, ih]

theorem sectionIssues?_of_agree
    (agree : Option.Rel Alike (config.get? sectionName) (other.get? sectionName)) :
    sectionIssues? config path sectionName = sectionIssues? other path sectionName := by
  unfold sectionIssues?
  rcases related_cases agree with ⟨lacks, other_lacks⟩ | ⟨value, again, held, other_held, alike⟩
  · rw [lacks, other_lacks]
  · rw [held, other_held]
    dsimp only
    rw [alike.scalar.1]
    rcases related_cases alike.listItems? with
      ⟨no_list, no_other⟩ | ⟨entries, others, entries_eq, others_eq, each⟩
    · rw [no_list, no_other]
    · rw [entries_eq, others_eq]
      exact entriesIssues?_of_alike each 0

theorem sectionsIssues?_of_agree {sections : List String}
    (agree : config.AgreesOn other sections) :
    sectionsIssues? config path sections = sectionsIssues? other path sections := by
  induction sections with
  | nil => rfl
  | cons sectionName sections ih =>
      obtain ⟨here, others⟩ := List.forall_mem_cons.mp agree
      rw [sectionsIssues?, sectionsIssues?, sectionIssues?_of_agree here, ih others]

theorem joined_assoc (first second third : Option (List Issue)) :
    (do
        let issues ← (do
          let issues ← first
          let others ← second
          return issues ++ others)
        let others ← third
        return issues ++ others) =
      (do
        let issues ← first
        let others ← (do
          let issues ← second
          let others ← third
          return issues ++ others)
        return issues ++ others) := by
  cases first with
  | none => rfl
  | some issues =>
      cases second with
      | none => rfl
      | some others => cases third <;> simp

theorem sectionsIssues?_append (config : Mapping) (path : Path) (front back : List String) :
    sectionsIssues? config path (front ++ back) =
      (do
        let issues ← sectionsIssues? config path front
        let others ← sectionsIssues? config path back
        return issues ++ others) := by
  induction front with
  | nil => cases given : sectionsIssues? config path back <;> simp [sectionsIssues?, given]
  | cons sectionName front ih =>
      rw [List.cons_append, sectionsIssues?, sectionsIssues?, ih, joined_assoc]

theorem sectionIssues?_about (listed : sectionName ∈ ["providers", "tools", "hooks"])
    {issues : List Issue} (given : sectionIssues? config path sectionName = some issues) :
    ∀ issue ∈ issues, issue.IsAbout sectionName := by
  obtain ⟨defects, told, complete, -⟩ := sectionIssues?_lists config sectionName issues given
  intro issue member
  obtain ⟨defect, found, tells⟩ := exists_of_forall₂ told member
  have place_in := ((complete defect).mp found).sectionName
  exact ⟨defect.place, tells.place_read (by rwa [place_in]), place_in⟩

theorem sectionsIssues?_about {sections : List String}
    (listed : sections ⊆ ["providers", "tools", "hooks"]) {issues : List Issue}
    (given : sectionsIssues? config path sections = some issues) :
    ∀ issue ∈ issues, ∃ sectionName ∈ sections, issue.IsAbout sectionName := by
  induction sections generalizing issues with
  | nil =>
      cases given
      simp
  | cons sectionName sections ih =>
      obtain ⟨here, others, here_eq, others_eq, rfl⟩ := joined_eq_some given
      obtain ⟨head_listed, tail_listed⟩ := List.cons_subset.mp listed
      intro issue member
      rcases List.mem_append.mp member with first | later
      · exact ⟨sectionName, List.mem_cons_self,
          sectionIssues?_about head_listed here_eq issue first⟩
      · obtain ⟨other, other_listed, about⟩ := ih tail_listed others_eq issue later
        exact ⟨other, List.mem_cons_of_mem _ other_listed, about⟩

/-- Sections without a given one have no issues about it. -/
theorem sectionsIssues?_not_about {sections : List String}
    (within : sections ⊆ ["providers", "tools", "hooks"].erase sectionName) {issues : List Issue}
    (given : sectionsIssues? config path sections = some issues) :
    ∀ issue ∈ issues, ¬issue.IsAbout sectionName := by
  have elsewhere : sectionName ∉ ["providers", "tools", "hooks"].erase sectionName :=
    List.Nodup.not_mem_erase (by decide)
  intro issue member about
  obtain ⟨name, name_listed, about_name⟩ :=
    sectionsIssues?_about (List.Subset.trans within List.erase_subset) given issue member
  rw [about.unique about_name] at within elsewhere
  exact elsewhere (within name_listed)

/-- The issues about a section stand together. Settings that agree on the other sections have the
same issues before and after them. -/
theorem sectionsIssues?_replace (listed : sectionName ∈ ["providers", "tools", "hooks"])
    (agree : config.AgreesOn other (["providers", "tools", "hooks"].erase sectionName))
    {issues : List Issue} (given : sectionsIssues? config path moduleSections = some issues) :
    ∃ before here after, issues = before ++ here ++ after ∧
      sectionIssues? config path sectionName = some here ∧
      (∀ issue ∈ before ++ after, ¬issue.IsAbout sectionName) ∧
      sectionsIssues? other path moduleSections =
        (sectionIssues? other path sectionName).map fun there => before ++ there ++ after := by
  obtain ⟨front, back, -, sections_eq, rest_eq⟩ := List.exists_erase_eq listed
  have front_within : front ⊆ ["providers", "tools", "hooks"].erase sectionName :=
    rest_eq ▸ List.subset_append_left front back
  have back_within : back ⊆ ["providers", "tools", "hooks"].erase sectionName :=
    rest_eq ▸ List.subset_append_right front back
  rw [moduleSections, sections_eq, sectionsIssues?_append, sectionsIssues?] at given ⊢
  obtain ⟨before, rest, before_eq, rest_eq, rfl⟩ := joined_eq_some given
  obtain ⟨here, after, here_eq, after_eq, rfl⟩ := joined_eq_some rest_eq
  have same_before : sectionsIssues? other path front = some before :=
    (sectionsIssues?_of_agree fun name member => agree name (front_within member)).symm.trans
      before_eq
  have same_after : sectionsIssues? other path back = some after :=
    (sectionsIssues?_of_agree fun name member => agree name (back_within member)).symm.trans
      after_eq
  refine ⟨before, here, after, (List.append_assoc ..).symm, here_eq,
    List.forall_mem_append.mpr ⟨?_, ?_⟩, ?_⟩
  · exact sectionsIssues?_not_about front_within before_eq
  · exact sectionsIssues?_not_about back_within after_eq
  · rw [same_before, same_after]
    cases sectionIssues? other path sectionName <;> simp

/-- Settings that agree on the other sections differ in the block of issues about one section. -/
theorem sectionsIssues?_differ (listed : sectionName ∈ ["providers", "tools", "hooks"])
    (agree : config.AgreesOn other (["providers", "tools", "hooks"].erase sectionName))
    {issues others : List Issue}
    (given : sectionsIssues? config path moduleSections = some issues)
    (other_given : sectionsIssues? other path moduleSections = some others) :
    ∃ before here there after, issues = before ++ here ++ after ∧
      others = before ++ there ++ after ∧
      (∀ issue ∈ here ++ there, issue.IsAbout sectionName) ∧
      ∀ issue ∈ before ++ after, ¬issue.IsAbout sectionName := by
  obtain ⟨before, here, after, rfl, here_eq, elsewhere, replaced⟩ :=
    sectionsIssues?_replace listed agree given
  rw [replaced] at other_given
  obtain ⟨there, there_eq, rfl⟩ := Option.map_eq_some_iff.mp other_given
  refine ⟨before, here, there, after, rfl, rfl, List.forall_mem_append.mpr ⟨?_, ?_⟩, elsewhere⟩
  · exact sectionIssues?_about listed here_eq
  · exact sectionIssues?_about listed there_eq

theorem requiredFields_of_agree {bundle other : Bundle} (same_file : bundle.path = other.path)
    (same_kind : bundle.config.Has "meta" ↔ other.config.Has "meta")
    (agree : Option.Rel Alike (bundle.config.get? "bundle") (other.config.get? "bundle")) :
    ∃ issues, BuiltInCheck.requiredFields.run bundle = .issues issues ∧
      BuiltInCheck.requiredFields.run other = .issues issues := by
  by_cases agent : bundle.config.Has "meta"
  · exact ⟨[], requiredFields_of_agent agent, requiredFields_of_agent (same_kind.mp agent)⟩
  · refine ⟨_, requiredFields_of_bundle agent, ?_⟩
    rw [nameIssues_of_agree agree, same_file]
    exact requiredFields_of_bundle (mt same_kind.mpr agent)

theorem moduleLists_of_agree {bundle other : Bundle} (same_file : bundle.path = other.path)
    (same_kind : bundle.config.Has "meta" ↔ other.config.Has "meta")
    (agree : bundle.config.AgreesOn other.config ["providers", "tools", "hooks"]) :
    BuiltInCheck.moduleLists.run bundle = BuiltInCheck.moduleLists.run other := by
  by_cases agent : bundle.config.Has "meta"
  · exact (moduleLists_of_agent agent).trans (moduleLists_of_agent (same_kind.mp agent)).symm
  · have same_issues :
        sectionsIssues? bundle.config bundle.path moduleSections =
          sectionsIssues? other.config bundle.path moduleSections :=
      sectionsIssues?_of_agree agree
    refine (moduleLists_of_bundle agent).trans ?_
    rw [same_issues, same_file]
    exact (moduleLists_of_bundle (mt same_kind.mpr agent)).symm

theorem moduleLists_differ {bundle other : Bundle} (same_file : bundle.path = other.path)
    (same_kind : bundle.config.Has "meta" ↔ other.config.Has "meta")
    (listed : sectionName ∈ ["providers", "tools", "hooks"])
    (agree :
      bundle.config.AgreesOn other.config (["providers", "tools", "hooks"].erase sectionName))
    {issues others : List Issue} (given : BuiltInCheck.moduleLists.run bundle = .issues issues)
    (other_given : BuiltInCheck.moduleLists.run other = .issues others) :
    ∃ before here there after, issues = before ++ here ++ after ∧
      others = before ++ there ++ after ∧
      (∀ issue ∈ here ++ there, issue.IsAbout sectionName) ∧
      ∀ issue ∈ before ++ after, ¬issue.IsAbout sectionName := by
  by_cases agent : bundle.config.Has "meta"
  · have silent : issues = [] := Outcome.issues.inj (given.symm.trans (moduleLists_of_agent agent))
    have also_silent : others = [] :=
      Outcome.issues.inj (other_given.symm.trans (moduleLists_of_agent (same_kind.mp agent)))
    exact ⟨[], [], [], [], silent, also_silent, by simp, by simp⟩
  · have found_eq := (moduleLists_eq_issues_iff agent).mp given
    have others_eq := (moduleLists_eq_issues_iff (mt same_kind.mpr agent)).mp other_given
    rw [← same_file] at others_eq
    exact sectionsIssues?_differ listed agree found_eq others_eq

/-- The check on lists of modules gives issues for agents and if no entry is a long integer. -/
theorem moduleLists_gives_iff {bundle : Bundle} :
    (∃ issues, BuiltInCheck.moduleLists.run bundle = .issues issues) ↔
      bundle.config.Has "meta" ∨ ¬ListsUnwritable bundle.config := by
  have breaks_iff :
      BuiltInCheck.moduleLists.Breaks bundle.config ↔
        ¬(bundle.config.Has "meta" ∨ ¬ListsUnwritable bundle.config) := by
    simp [BuiltInCheck.Breaks]
  rcases BuiltInCheck.moduleLists.run_cases bundle with ⟨unbroken, given⟩ | ⟨breaks, raised⟩
  · exact iff_of_true given (not_not.mp (mt breaks_iff.mpr unbroken))
  · refine iff_of_false ?_ (breaks_iff.mp breaks)
    rintro ⟨issues, given⟩
    rw [raised] at given
    cases given

/-- Settings of the same kind that agree on the four keys, up to the order of entries inside their
values, have the same issues in the same order, whatever else they hold. If they agree on all but
one section, then they differ in the block of issues about this section only. The check on lists of
modules gives issues at all unless an entry is a long integer, which costs the blocks of every
section. -/
theorem checks_of_agreement {bundle other : Bundle} (same_file : bundle.path = other.path)
    (same_kind : bundle.config.Has "meta" ↔ other.config.Has "meta") :
    (bundle.config.AgreesOn other.config ["bundle", "providers", "tools", "hooks"] →
      (∃ issues, BuiltInCheck.requiredFields.run bundle = .issues issues ∧
        BuiltInCheck.requiredFields.run other = .issues issues) ∧
      BuiltInCheck.moduleLists.run bundle = BuiltInCheck.moduleLists.run other) ∧
    (∀ sectionName ∈ ["providers", "tools", "hooks"],
      bundle.config.AgreesOn other.config
        ("bundle" :: ["providers", "tools", "hooks"].erase sectionName) →
      (∃ issues, BuiltInCheck.requiredFields.run bundle = .issues issues ∧
        BuiltInCheck.requiredFields.run other = .issues issues) ∧
      (bundle.config.Has "meta" ∨
          ¬ListsUnwritable bundle.config ∧ ¬ListsUnwritable other.config →
        ∃ before here there after,
          BuiltInCheck.moduleLists.run bundle = .issues (before ++ here ++ after) ∧
            BuiltInCheck.moduleLists.run other = .issues (before ++ there ++ after) ∧
            (∀ issue ∈ here ++ there, issue.IsAbout sectionName) ∧
            ∀ issue ∈ before ++ after, ¬issue.IsAbout sectionName)) ∧
    ((∃ issues, BuiltInCheck.moduleLists.run bundle = .issues issues) ↔
      bundle.config.Has "meta" ∨ ¬ListsUnwritable bundle.config) := by
  refine ⟨?_, ?_, moduleLists_gives_iff⟩
  · intro agree
    obtain ⟨same_bundle, same_sections⟩ := List.forall_mem_cons.mp agree
    exact ⟨requiredFields_of_agree same_file same_kind same_bundle,
      moduleLists_of_agree same_file same_kind same_sections⟩
  · intro sectionName listed agree
    obtain ⟨same_bundle, same_others⟩ := List.forall_mem_cons.mp agree
    refine ⟨requiredFields_of_agree same_file same_kind same_bundle, fun gives => ?_⟩
    obtain ⟨issues, given⟩ := moduleLists_gives_iff.mpr (gives.imp_right And.left)
    obtain ⟨others, other_given⟩ :=
      moduleLists_gives_iff.mpr (gives.imp same_kind.mp And.right)
    obtain ⟨before, here, there, after, rfl, rfl, about⟩ :=
      moduleLists_differ same_file same_kind listed same_others given other_given
    exact ⟨before, here, there, after, given, other_given, about⟩

/-- The settings in another order, with another key before them, and with hooks that are no list.
The keys of a tool are in another order too. -/
def reorderedConfig : Mapping where
  label := none
  entries :=
    [(.int 7, .list none [.null]), (.text "providers", .bool true),
      (.text "tools",
        .list none
          [.text "bash", .map none [(.text "port", .int 8), (.text "name", .text "bash")]]),
      (.text "hooks", .text "none")]

theorem reorderedConfig_agrees :
    mixedConfig.AgreesOn reorderedConfig
      ("bundle" :: ["providers", "tools", "hooks"].erase "hooks") := by
  have same_tool :
      Alike (.map none [(.text "name", .text "bash"), (.text "port", .int 8)])
        (.map none [(.text "port", .int 8), (.text "name", .text "bash")]) := by
    refine .of_form (.mapping rfl rfl ?_ (.swap ..) ?_)
    · decide
    · exact .cons ⟨rfl, .refl _⟩ (.cons ⟨rfl, .refl _⟩ .nil)
  intro key listed
  have keys_eq : key = "bundle" ∨ key = "providers" ∨ key = "tools" := by
    simpa using listed
  rcases keys_eq with rfl | rfl | rfl
  · exact .none
  · exact .some (.refl (.bool true))
  · exact .some (.of_form (.list rfl rfl (.cons (.refl _) (.cons same_tool .nil))))

theorem checks_of_agreement_reordered :
    ¬ListsUnwritable mixedConfig ∧ ¬ListsUnwritable reorderedConfig ∧
      ∃ before here there after,
        BuiltInCheck.moduleLists.run ⟨mixedConfig, [], ⟨0, ["b.md"]⟩⟩ =
            .issues (before ++ here ++ after) ∧
          BuiltInCheck.moduleLists.run ⟨reorderedConfig, ['x'], ⟨0, ["b.md"]⟩⟩ =
            .issues (before ++ there ++ after) ∧
          (∀ issue ∈ here ++ there, issue.IsAbout "hooks") ∧
          ∀ issue ∈ before ++ after, ¬issue.IsAbout "hooks" := by
  have same_kind : mixedConfig.Has "meta" ↔ reorderedConfig.Has "meta" := by
    rw [← Mapping.contains_iff, ← Mapping.contains_iff]
    decide
  have writable : ¬ListsUnwritable mixedConfig := mixedConfig_writable
  have other_writable : ¬ListsUnwritable reorderedConfig := by
    have written : sectionsIssues? reorderedConfig ⟨0, ["b.md"]⟩ moduleSections ≠ none := by
      decide +kernel
    exact mt sectionsIssues?_eq_none_iff.mpr written
  obtain ⟨-, differ, -⟩ :=
    @checks_of_agreement ⟨mixedConfig, [], ⟨0, ["b.md"]⟩⟩ ⟨reorderedConfig, ['x'], ⟨0, ["b.md"]⟩⟩
      rfl same_kind
  obtain ⟨-, blocks⟩ := differ "hooks" (by decide) reorderedConfig_agrees
  exact ⟨writable, other_writable, blocks (.inr ⟨writable, other_writable⟩)⟩

/-- Settings with a provider that is a number instead of a list, and some tools. -/
def numberConfig (tools : List Value) : Mapping where
  label := none
  entries := [(.text "providers", .int 5), (.text "tools", .list none tools)]

theorem numberConfig_agrees (tools others : List Value) :
    (numberConfig tools).AgreesOn (numberConfig others)
      ("bundle" :: ["providers", "tools", "hooks"].erase "tools") := by
  intro key listed
  have keys_eq : key = "bundle" ∨ key = "providers" ∨ key = "hooks" := by
    simpa using listed
  rcases keys_eq with rfl | rfl | rfl
  · exact .none
  · exact .some (.refl (.int 5))
  · exact .none

/-- With a long integer among the tools, the issue about the provider is gone. -/
theorem checks_of_agreement_longInteger :
    ¬∀ bundle other : Bundle, bundle.path = other.path →
      (bundle.config.Has "meta" ↔ other.config.Has "meta") →
      bundle.config.AgreesOn other.config
        ("bundle" :: ["providers", "tools", "hooks"].erase "tools") →
      ∃ before here there after,
        BuiltInCheck.moduleLists.run bundle = .issues (before ++ here ++ after) ∧
          BuiltInCheck.moduleLists.run other = .issues (before ++ there ++ after) ∧
          (∀ issue ∈ here ++ there, issue.IsAbout "tools") ∧
          ∀ issue ∈ before ++ after, ¬issue.IsAbout "tools" := by
  intro independent
  have same_kind :
      (numberConfig []).Has "meta" ↔ (numberConfig [.int (10 ^ 4300)]).Has "meta" := by
    rw [← Mapping.contains_iff, ← Mapping.contains_iff]
    rfl
  have unwritable : ListsUnwritable (numberConfig [.int (10 ^ 4300)]) := by
    have unwritten :
        sectionsIssues? (numberConfig [.int (10 ^ 4300)]) ⟨0, ["b.md"]⟩ moduleSections = none := by
      decide +kernel
    exact sectionsIssues?_eq_none_iff.mp unwritten
  have not_agent : ¬(numberConfig [.int (10 ^ 4300)]).Has "meta" := by
    rw [← Mapping.contains_iff]
    exact Bool.false_ne_true
  obtain ⟨before, here, there, after, -, other_given, -⟩ :=
    independent ⟨numberConfig [], [], ⟨0, ["b.md"]⟩⟩
      ⟨numberConfig [.int (10 ^ 4300)], [], ⟨0, ["b.md"]⟩⟩ rfl same_kind (numberConfig_agrees _ _)
  rcases moduleLists_gives_iff.mp ⟨_, other_given⟩ with agent | writable
  · exact not_agent agent
  · exact writable unwritable

end BuiltIn

end BundleLint
