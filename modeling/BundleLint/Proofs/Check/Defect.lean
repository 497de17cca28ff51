import BundleLint.Proofs.Check.Fault

/-!
# Defects of the lists of modules

The check on lists of modules tells every defect once and in order: by section, and by index in a
section. A message begins with the place of its defect, from which the place can be read back.
-/

namespace BundleLint

/-! ## Places -/

/-- A place among the lists of modules. -/
inductive Place where
  /-- A whole section. -/
  | list (sectionName : String)
  /-- An entry of a section, by its index. -/
  | entry (sectionName : String) (index : Nat)
  deriving DecidableEq, Repr

namespace Place

/-- The section of a place. -/
def sectionName : Place → String
  | .list sectionName => sectionName
  | .entry sectionName _ => sectionName

/-- How a message about a place begins: with the name of the section in quotes, or with the name
and the index in brackets. -/
def opening : Place → String
  | .list sectionName => "'" ++ sectionName ++ "'"
  | .entry sectionName index => sectionName ++ "[" ++ toString index ++ "]"

/-- Reads the place of an entry: what stands before the first bracket, and the digits after it. -/
def readEntry? (text : List Char) : Option Place :=
  match text.dropWhile (· != '[') with
  | [] => none
  | _ :: index =>
    some
      (.entry (String.ofList (text.takeWhile (· != '[')))
        (Nat.ofDigitChars 10 (index.takeWhile Char.isDigit) 0))

/-- Reads a place from the beginning of a message. -/
def ofMessage? (message : String) : Option Place :=
  match message.toList with
  | '\x27' :: quoted => some (.list (String.ofList (quoted.takeWhile (· != '\x27'))))
  | text => readEntry? text

/-- The order of reporting: by section, and by index in a section. -/
inductive Before : Place → Place → Prop
  | sections {left right : Place}
      (earlier : ["providers", "tools", "hooks"].idxOf left.sectionName <
        ["providers", "tools", "hooks"].idxOf right.sectionName) :
      Before left right
  | entries {sectionName : String} {index later : Nat} (earlier : index < later) :
      Before (.entry sectionName index) (.entry sectionName later)

theorem Before.ne {left right : Place} (before : left.Before right) : left ≠ right := by
  rintro rfl
  cases before with
  | sections earlier => exact Nat.lt_irrefl _ earlier
  | entries earlier => exact Nat.lt_irrefl _ earlier

/-- A text is cut at the first mark in it. -/
theorem cut_at_mark {name : List Char} {mark : Char} (free : mark ∉ name) (rest : List Char) :
    (name ++ mark :: rest).takeWhile (· != mark) = name ∧
      (name ++ mark :: rest).dropWhile (· != mark) = mark :: rest := by
  have before_mark : ∀ c ∈ name, (c != mark) = true := by
    intro c member
    rw [bne_iff_ne]
    rintro rfl
    exact free member
  rw [List.takeWhile_append_of_pos before_mark, List.dropWhile_append_of_pos before_mark]
  simp

theorem readEntry?_digits {name : List Char} (unbracketed : '[' ∉ name) (index : Nat)
    (rest : List Char) :
    readEntry? (name ++ '[' :: (Nat.toDigits 10 index ++ ']' :: rest)) =
      some (.entry (String.ofList name) index) := by
  have digits : ∀ c ∈ Nat.toDigits 10 index, c.isDigit = true := fun c member =>
    Nat.isDigit_of_mem_toDigits (by decide) (by decide) member
  have index_read :
      (Nat.toDigits 10 index ++ ']' :: rest).takeWhile Char.isDigit = Nat.toDigits 10 index := by
    rw [List.takeWhile_append_of_pos digits]
    simp
  obtain ⟨name_read, index_left⟩ :=
    cut_at_mark unbracketed (Nat.toDigits 10 index ++ ']' :: rest)
  unfold readEntry?
  rw [name_read, index_left]
  dsimp only
  rw [index_read, Nat.ofDigitChars_ten_toDigits]

/-- The place is read back from any message that begins with it, if the name of its section has no
marks in it. -/
theorem ofMessage?_opening {place : Place} (unquoted : '\x27' ∉ place.sectionName.toList)
    (unbracketed : '[' ∉ place.sectionName.toList) (rest : String) :
    ofMessage? (place.opening ++ rest) = some place := by
  cases place with
  | list sectionName =>
      have text_eq : ((list sectionName).opening ++ rest).toList =
          '\x27' :: (sectionName.toList ++ '\x27' :: rest.toList) := by
        simp [opening]
      obtain ⟨name_read, -⟩ := cut_at_mark unquoted rest.toList
      simp only [Place.sectionName] at name_read
      simp only [ofMessage?, text_eq, name_read, String.ofList_toList]
  | entry sectionName index =>
      have text_eq : ((entry sectionName index).opening ++ rest).toList =
          sectionName.toList ++ '[' :: (Nat.toDigits 10 index ++ ']' :: rest.toList) := by
        simp [opening]
      have entry_read := readEntry?_digits unbracketed index rest.toList
      simp only [Place.sectionName, String.ofList_toList] at entry_read unquoted
      rw [← text_eq] at entry_read
      unfold ofMessage?
      split
      · rename_i quoted starts
        -- The name does not begin with a quote, and the bracket after an empty name is none.
        rw [text_eq] at starts
        cases name_eq : sectionName.toList with
        | nil => simp [name_eq] at starts
        | cons c name =>
            rw [name_eq, List.cons_append, List.cons.injEq] at starts
            simp [name_eq, starts.1] at unquoted
      · exact entry_read

theorem ofMessage?_of_listed {place : Place}
    (listed : place.sectionName ∈ ["providers", "tools", "hooks"]) (rest : String) :
    ofMessage? (place.opening ++ rest) = some place := by
  have unmarked : ∀ sectionName ∈ ["providers", "tools", "hooks"],
      '\x27' ∉ sectionName.toList ∧ '[' ∉ sectionName.toList := by
    decide
  obtain ⟨unquoted, unbracketed⟩ := unmarked _ listed
  exact ofMessage?_opening unquoted unbracketed rest

end Place

/-! ## Defects -/

/-- A defect of the lists of modules: what is wrong, and where. -/
structure Defect where
  /-- The code of the issue about it. -/
  code : String
  /-- Where it is. -/
  place : Place
  deriving DecidableEq, Repr

/-- What is wrong with an entry: it is no mapping, or it tells no module. -/
inductive EntryDefect (sectionName : String) (index : Nat) (entry : Value) : Defect → Prop
  | format (no_mapping : ∀ mapping : Mapping, entry ≠ mapping.toValue) :
      EntryDefect sectionName index entry ⟨"INVALID_MODULE_FORMAT", .entry sectionName index⟩
  | key {mapping : Mapping} (entry_eq : entry = mapping.toValue) (lacks : ¬mapping.Has "module") :
      EntryDefect sectionName index entry ⟨"MISSING_MODULE_KEY", .entry sectionName index⟩

/-- What is wrong with a section that is present: it is no list, or an entry of it is wrong. -/
inductive SectionDefect (config : Mapping) (sectionName : String) : Defect → Prop
  | list {value : Value} (present : config.get? sectionName = some value)
      (no_list : value.listItems? = none) :
      SectionDefect config sectionName ⟨"INVALID_MODULE_LIST", .list sectionName⟩
  | entry {value : Value} {entries : List Value} {index : Nat} {entry : Value} {defect : Defect}
      (present : config.get? sectionName = some value) (items : value.listItems? = some entries)
      (held : entries[index]? = some entry) (wrong : EntryDefect sectionName index entry defect) :
      SectionDefect config sectionName defect

/-- What is wrong with the lists of modules in settings. -/
def Defect.IsIn (defect : Defect) (config : Mapping) : Prop :=
  ∃ sectionName ∈ ["providers", "tools", "hooks"], SectionDefect config sectionName defect

/-- An issue has the code of a defect, and its message begins with the place. -/
structure Issue.Tells (issue : Issue) (defect : Defect) : Prop where
  code : issue.code = defect.code
  message : ∃ rest, issue.message = defect.place.opening ++ rest

/-- The place of a defect can be read in the message of the issue about it. -/
theorem Issue.Tells.place_read {issue : Issue} {defect : Defect} (tells : issue.Tells defect)
    (listed : defect.place.sectionName ∈ ["providers", "tools", "hooks"]) :
    Place.ofMessage? issue.message = some defect.place := by
  obtain ⟨rest, message_eq⟩ := tells.message
  rw [message_eq, Place.ofMessage?_of_listed listed]

theorem read_of_told {issues : List Issue} {defects : List Defect}
    (told : List.Forall₂ Issue.Tells issues defects)
    (listed : ∀ defect ∈ defects, defect.place.sectionName ∈ ["providers", "tools", "hooks"]) :
    issues.map (fun issue => (issue.code, Place.ofMessage? issue.message)) =
      defects.map (fun defect => (defect.code, some defect.place)) := by
  induction told with
  | nil => rfl
  | cons tells _ ih =>
      obtain ⟨here, others⟩ := List.forall_mem_cons.mp listed
      rw [List.map_cons, List.map_cons, ih others, tells.code, tells.place_read here]

theorem EntryDefect.place {sectionName : String} {index : Nat} {entry : Value} {defect : Defect}
    (wrong : EntryDefect sectionName index entry defect) :
    defect.place = .entry sectionName index := by
  cases wrong <;> rfl

theorem SectionDefect.sectionName {config : Mapping} {sectionName : String} {defect : Defect}
    (wrong : SectionDefect config sectionName defect) :
    defect.place.sectionName = sectionName := by
  cases wrong with
  | list => rfl
  | entry _ _ _ wrong => rw [wrong.place]; rfl

theorem Defect.IsIn.listed {defect : Defect} {config : Mapping} (wrong : defect.IsIn config) :
    defect.place.sectionName ∈ ["providers", "tools", "hooks"] := by
  obtain ⟨sectionName, listed, here⟩ := wrong
  rwa [here.sectionName]

/-- Issues that tell the defects of a kind one by one and in order, unless writing them breaks
off. -/
def Lists (IsWrong : Defect → Prop) (issues : Option (List Issue)) : Prop :=
  ∀ found, issues = some found → ∃ defects : List Defect,
    List.Forall₂ Issue.Tells found defects ∧ (∀ defect, defect ∈ defects ↔ IsWrong defect) ∧
      defects.Pairwise fun first second => first.place.Before second.place

namespace Lists

variable {IsWrong Other : Defect → Prop}

theorem silent (sound : ∀ defect, ¬IsWrong defect) : Lists IsWrong (some []) := by
  rintro _ ⟨⟩
  exact ⟨[], .nil, by simpa using sound, .nil⟩

theorem broken : Lists IsWrong none := by
  rintro _ ⟨⟩

theorem error {issue : Issue} (defect : Defect) (tells : issue.Tells defect)
    (only : ∀ other, IsWrong other ↔ other = defect) : Lists IsWrong (some [issue]) := by
  rintro _ ⟨⟩
  refine ⟨[defect], .cons tells .nil, ?_, List.pairwise_singleton ..⟩
  intro other
  rw [List.mem_singleton, only]

/-- Issues about one thing and then about another one list the defects of both, if those of the
first come before those of the second. -/
theorem append {front back : Option (List Issue)} (here : Lists IsWrong front)
    (there : Lists Other back)
    (ordered : ∀ first second, IsWrong first → Other second → first.place.Before second.place) :
    Lists (fun defect => IsWrong defect ∨ Other defect)
      (do
        let issues ← front
        let others ← back
        return issues ++ others) := by
  intro found found_eq
  obtain ⟨issues, others, front_eq, back_eq, rfl⟩ := BuiltIn.joined_eq_some found_eq
  obtain ⟨defects, told, complete, sorted⟩ := here issues front_eq
  obtain ⟨later, laterTold, laterComplete, laterSorted⟩ := there others back_eq
  refine ⟨defects ++ later, List.rel_append told laterTold, ?_, ?_⟩
  · intro defect
    rw [List.mem_append, complete, laterComplete]
  · rw [List.pairwise_append]
    refine ⟨sorted, laterSorted, ?_⟩
    intro first member second laterMember
    exact ordered first second ((complete first).mp member) ((laterComplete second).mp laterMember)

theorem congr {issues : Option (List Issue)} (lists : Lists IsWrong issues)
    (same : ∀ defect, IsWrong defect ↔ Other defect) : Lists Other issues := by
  intro found found_eq
  obtain ⟨defects, told, complete, sorted⟩ := lists found found_eq
  exact ⟨defects, told, fun defect => (complete defect).trans (same defect), sorted⟩

end Lists

namespace BuiltIn

variable {path : Path} {sectionName : String}

theorem entryIssues?_lists (index : Nat) (entry : Value) :
    Lists (EntryDefect sectionName index entry) (entryIssues? path sectionName index entry) := by
  unfold entryIssues?
  dsimp only
  cases isMapping : entry.mapping? with
  | none =>
      have no_mapping : ∀ mapping : Mapping, entry ≠ mapping.toValue := by
        intro mapping entry_eq
        rw [Value.mapping?_eq_some_iff.mpr entry_eq] at isMapping
        cases isMapping
      dsimp only
      cases entryHint? sectionName entry with
      | none => exact .broken
      | some hint =>
          refine .error ⟨"INVALID_MODULE_FORMAT", .entry sectionName index⟩ ?_ ?_
          · refine ⟨rfl,
              " must be a mapping with a 'module' key (got " ++ (entry.authorName ++ ")"), ?_⟩
            simp only [errorIn, entryLocation, Place.opening, String.append_assoc]
          · intro other
            constructor
            · intro wrong
              cases wrong with
              | format => rfl
              | key entry_eq => exact absurd entry_eq (no_mapping _)
            · rintro rfl
              exact .format no_mapping
  | some mapping =>
      obtain rfl := Value.mapping?_eq_some_iff.mp isMapping
      have has_iff := mapping.contains_iff "module"
      dsimp only
      split
      · rename_i contains
        refine .silent ?_
        intro defect wrong
        cases wrong with
        | format no_mapping => exact no_mapping mapping rfl
        | key entry_eq lacks =>
            obtain rfl := Mapping.toValue_inj.mp entry_eq
            exact lacks (has_iff.mp contains)
      · rename_i lacks
        refine .error ⟨"MISSING_MODULE_KEY", .entry sectionName index⟩ ?_ ?_
        · refine ⟨rfl, " is missing required key 'module'", ?_⟩
          simp only [errorIn, entryLocation, Place.opening]
        · intro other
          constructor
          · intro wrong
            cases wrong with
            | format no_mapping => exact absurd rfl (no_mapping mapping)
            | key => rfl
          · rintro rfl
            exact .key rfl (mt has_iff.mpr lacks)

/-- Entries from an index on are told in the order of their indices. -/
theorem entriesIssues?_lists (index : Nat) (entries : List Value) :
    Lists
      (fun defect => ∃ offset entry, entries[offset]? = some entry ∧
        EntryDefect sectionName (index + offset) entry defect)
      (entriesIssues? path sectionName index entries) := by
  induction entries generalizing index with
  | nil => exact .silent (by simp)
  | cons entry entries ih =>
      refine ((entryIssues?_lists index entry).append (ih (index + 1)) ?_).congr ?_
      · rintro first second here ⟨offset, other, -, there⟩
        rw [here.place, there.place]
        exact .entries (by omega)
      · intro defect
        constructor
        · rintro (here | ⟨offset, other, held, there⟩)
          · exact ⟨0, entry, rfl, here⟩
          · refine ⟨offset + 1, other, held, ?_⟩
            rwa [show index + (offset + 1) = index + 1 + offset by omega]
        · rintro ⟨offset, other, held, wrong⟩
          cases offset with
          | zero =>
              obtain rfl := Option.some.inj held
              exact .inl wrong
          | succ offset =>
              refine .inr ⟨offset, other, held, ?_⟩
              rwa [show index + 1 + offset = index + (offset + 1) by omega]

theorem sectionIssues?_lists (config : Mapping) (sectionName : String) :
    Lists (SectionDefect config sectionName) (sectionIssues? config path sectionName) := by
  unfold sectionIssues?
  cases present : config.get? sectionName with
  | none =>
      refine .silent ?_
      intro defect wrong
      cases wrong with
      | list found | entry found => simp [present] at found
  | some value =>
      dsimp only
      cases items : value.listItems? with
      | none =>
          refine .error ⟨"INVALID_MODULE_LIST", .list sectionName⟩ ?_ ?_
          · refine ⟨rfl, " must be a list (got " ++ (value.authorName ++ ")"), ?_⟩
            have quote_closed : "' must be a list (got " = "'" ++ " must be a list (got " := rfl
            simp only [errorIn, Place.opening, quote_closed, String.append_assoc]
          · intro other
            constructor
            · intro wrong
              cases wrong with
              | list => rfl
              | entry found listed =>
                  obtain rfl := Option.some.inj (present.symm.trans found)
                  simp [items] at listed
            · rintro rfl
              exact .list present items
      | some entries =>
          refine (entriesIssues?_lists 0 entries).congr ?_
          intro defect
          simp only [Nat.zero_add]
          constructor
          · rintro ⟨index, entry, held, wrong⟩
            exact .entry present items held wrong
          · intro wrong
            cases wrong with
            | list found no_list =>
                obtain rfl := Option.some.inj (present.symm.trans found)
                simp [items] at no_list
            | entry found listed held wrong =>
                obtain rfl := Option.some.inj (present.symm.trans found)
                obtain rfl := Option.some.inj (items.symm.trans listed)
                exact ⟨_, _, held, wrong⟩

/-- Sections in their order are told in this order. -/
theorem sectionsIssues?_lists (config : Mapping) {sections : List String}
    (ordered : sections.Pairwise fun first second =>
      ["providers", "tools", "hooks"].idxOf first < ["providers", "tools", "hooks"].idxOf second) :
    Lists (fun defect => ∃ sectionName ∈ sections, SectionDefect config sectionName defect)
      (sectionsIssues? config path sections) := by
  induction ordered with
  | nil => exact .silent (by simp)
  | cons earlier _ ih =>
      refine ((sectionIssues?_lists config _).append ih ?_).congr ?_
      · rintro first second here ⟨other, listed, there⟩
        refine .sections ?_
        rw [here.sectionName, there.sectionName]
        exact earlier other listed
      · intro defect
        simp only [List.mem_cons, exists_eq_or_imp]

theorem moduleSections_ordered :
    moduleSections.Pairwise fun first second =>
      ["providers", "tools", "hooks"].idxOf first <
        ["providers", "tools", "hooks"].idxOf second := by
  decide

/-- The issues about the lists of modules can be written if no entry is a long integer. -/
theorem exists_sectionsIssues? {config : Mapping} (writable : ¬ListsUnwritable config)
    (path : Path) :
    ∃ issues, sectionsIssues? config path moduleSections = some issues :=
  Option.ne_none_iff_exists'.mp (mt sectionsIssues?_eq_none_iff.mp writable)

/-- No two issues about the lists of modules have the same code and the same place. -/
theorem sectionsIssues?_distinct {config : Mapping} {issues : List Issue}
    (given : sectionsIssues? config path moduleSections = some issues) :
    (issues.map fun issue => (issue.code, Place.ofMessage? issue.message)).Nodup := by
  obtain ⟨defects, told, complete, sorted⟩ :=
    sectionsIssues?_lists config moduleSections_ordered issues given
  have listed : ∀ defect ∈ defects,
      defect.place.sectionName ∈ ["providers", "tools", "hooks"] :=
    fun defect member => Defect.IsIn.listed ((complete defect).mp member)
  rw [read_of_told told listed]
  refine List.pairwise_map.mpr (sorted.imp ?_)
  intro first second before same
  exact before.ne (Option.some.inj (congrArg Prod.snd same))

/-- The check on the lists of modules tells each defect once, in the order of the sections and of
the indices, and nothing else. The place of a defect can be read back from the message. -/
theorem moduleLists_tells_defects {bundle : Bundle} (not_agent : ¬bundle.config.Has "meta")
    (writable : ¬ListsUnwritable bundle.config) :
    ∃ issues defects,
      BuiltInCheck.moduleLists.run bundle = .issues issues ∧
        issues.map (fun issue => (issue.code, Place.ofMessage? issue.message)) =
          defects.map (fun defect => (defect.code, some defect.place)) ∧
        List.Forall₂ Issue.Tells issues defects ∧
        (∀ defect : Defect, defect ∈ defects ↔ defect.IsIn bundle.config) ∧
        (defects.Pairwise fun first second => first.place.Before second.place) ∧
        (defects.map (·.place)).Nodup := by
  obtain ⟨issues, found_eq⟩ := exists_sectionsIssues? writable bundle.path
  obtain ⟨defects, told, complete, sorted⟩ :=
    sectionsIssues?_lists bundle.config moduleSections_ordered issues found_eq
  have distinct : (defects.map (·.place)).Nodup :=
    List.pairwise_map.mpr (sorted.imp Place.Before.ne)
  have listed : ∀ defect ∈ defects,
      defect.place.sectionName ∈ ["providers", "tools", "hooks"] :=
    fun defect member => Defect.IsIn.listed ((complete defect).mp member)
  exact ⟨issues, defects, (moduleLists_eq_issues_iff not_agent).mpr found_eq,
    read_of_told told listed, told, complete, sorted, distinct⟩

/-- Settings with a provider that is a truth value instead of a list, a tool without a module after
one that is only a text, and no defect among the hooks. -/
def mixedConfig : Mapping where
  label := none
  entries :=
    [(.text "hooks", .list none [.map none [(.text "module", .null)]]),
      (.text "tools",
        .list none
          [.text "bash", .map none [(.text "name", .text "bash"), (.text "port", .int 8)]]),
      (.text "providers", .bool true)]

theorem mixedConfig_not_agent : ¬mixedConfig.Has "meta" := by
  rw [← Mapping.contains_iff]
  decide

theorem mixedConfig_writable : ¬ListsUnwritable mixedConfig := by
  have written : sectionsIssues? mixedConfig ⟨0, ["b.md"]⟩ moduleSections ≠ none := by
    decide +kernel
  exact mt sectionsIssues?_eq_none_iff.mpr written

theorem moduleLists_tells_defects_mixed :
    ¬mixedConfig.Has "meta" ∧ ¬ListsUnwritable mixedConfig ∧
      ∀ defect : Defect, defect.IsIn mixedConfig ↔
        defect ∈
          [⟨"INVALID_MODULE_LIST", .list "providers"⟩,
            ⟨"INVALID_MODULE_FORMAT", .entry "tools" 0⟩,
            ⟨"MISSING_MODULE_KEY", .entry "tools" 1⟩] := by
  refine ⟨mixedConfig_not_agent, mixedConfig_writable, ?_⟩
  obtain ⟨issues, defects, given, read, -, complete, -⟩ :=
    @moduleLists_tells_defects ⟨mixedConfig, [], ⟨0, ["b.md"]⟩⟩ mixedConfig_not_agent
      mixedConfig_writable
  have issues_eq :
      issues.map (fun issue => (issue.code, Place.ofMessage? issue.message)) =
        [("INVALID_MODULE_LIST", some (.list "providers")),
          ("INVALID_MODULE_FORMAT", some (.entry "tools" 0)),
          ("MISSING_MODULE_KEY", some (.entry "tools" 1))] := by
    cases given
    decide +kernel
  have told_apart : Function.Injective fun defect : Defect => (defect.code, some defect.place) := by
    rintro ⟨code, place⟩ ⟨other, there⟩ same
    simpa using same
  intro defect
  rw [← complete, ← List.mem_map_of_injective told_apart, ← read, issues_eq]
  exact List.mem_map_of_injective told_apart (l :=
    [⟨"INVALID_MODULE_LIST", .list "providers"⟩, ⟨"INVALID_MODULE_FORMAT", .entry "tools" 0⟩,
      ⟨"MISSING_MODULE_KEY", .entry "tools" 1⟩])

end BuiltIn

end BundleLint
