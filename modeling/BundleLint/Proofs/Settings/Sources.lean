import BundleLint.Proofs.Settings.Load

/-!
# Sources of the settings

Each setting is decided on its own by the highest of its sources that says something: its variable,
then the settings file, then the default.
-/

namespace BundleLint

theorem CheckMode.ofText?_eq_some_iff {name : String} {mode : CheckMode} :
    CheckMode.ofText? name = some mode ↔ name = mode.text := by
  constructor
  · intro found
    have named := List.find?_some found
    exact (beq_iff_eq.mp named).symm
  · rintro rfl
    cases mode <;> rfl

theorem OutputFormat.find?_eq_some_iff {name : String} {format : OutputFormat} :
    (OutputFormat.all.find? fun format => format.name == name) = some format ↔
      name = format.name := by
  constructor
  · intro found
    have named := List.find?_some found
    exact (beq_iff_eq.mp named).symm
  · rintro rfl
    cases format <;> rfl

namespace Settings

/-! ## What values mean -/

/-- A value is shown as a word, apart from blanks around it and from case. -/
def Spells (value : Value) (spelled : String) : Prop :=
  ∃ shown, value.display = .ok shown ∧ word shown = spelled

/-- A value spells the name of a mode. -/
def SpellsMode (value : Value) (mode : CheckMode) : Prop :=
  Spells value mode.text

/-- A value spells the name of a format. -/
def SpellsFormat (value : Value) (format : OutputFormat) : Prop :=
  Spells value format.name

/-- A value is a truth value, or spells a word that stands for one. -/
inductive SpellsBool : Value → Bool → Prop
  | bool (b : Bool) : SpellsBool (.bool b) b
  | true {value : Value} {spelled : String} (not_bool : ∀ b, value ≠ .bool b)
      (spells : Spells value spelled) (stands : spelled ∈ trueWords) : SpellsBool value true
  | false {value : Value} {spelled : String} (not_bool : ∀ b, value ≠ .bool b)
      (spells : Spells value spelled) (stands : spelled ∈ falseWords) : SpellsBool value false

/-- A value lists names: none, those between commas, or those of a list. -/
inductive ListsNames : Value → List String → Prop
  | null : ListsNames .null []
  | text (text : List CodePoint) :
      ListsNames (.text text) (tidyNames (Text.splitAt (.char ',') text))
  | list (label : Option Nat) (texts : List (List CodePoint)) :
      ListsNames (.list label (texts.map .text)) (tidyNames texts)

/-- A reader takes exactly the values that mean something, for what they mean. -/
def Takes {Setting : Type} (read : Value → String → Except SettingFault Setting)
    (Means : Value → Setting → Prop) : Prop :=
  ∀ value origin setting, read value origin = .ok setting ↔ Means value setting

theorem shownValue_eq_ok_iff {value : Value} {shown : List CodePoint} :
    shownValue value = .ok shown ↔ value.display = .ok shown :=
  mapError_eq_ok_iff

theorem readMode_takes : Takes readMode SpellsMode := by
  intro value origin mode
  simp only [readMode, SpellsMode, Spells, bind_eq_ok_iff, shownValue_eq_ok_iff]
  refine exists_congr fun shown => and_congr_right fun _ => ?_
  rw [← CheckMode.ofText?_eq_some_iff]
  cases CheckMode.ofText? (word shown) with
  | none => exact iff_of_false nofun nofun
  | some found => simp [pure, Except.pure]

theorem readFormat_takes : Takes readFormat SpellsFormat := by
  intro value origin format
  simp only [readFormat, SpellsFormat, Spells, bind_eq_ok_iff, shownValue_eq_ok_iff]
  refine exists_congr fun shown => and_congr_right fun _ => ?_
  rw [← OutputFormat.find?_eq_some_iff]
  cases OutputFormat.all.find? fun format => format.name == word shown with
  | none => exact iff_of_false nofun nofun
  | some found => simp [pure, Except.pure]

theorem not_mem_trueWords {spelled : String} (stands : spelled ∈ falseWords) :
    spelled ∉ trueWords := by
  simp only [falseWords, List.mem_cons, List.not_mem_nil, or_false] at stands
  rcases stands with rfl | rfl | rfl | rfl | rfl <;> decide

theorem readBool_takes : Takes readBool SpellsBool := by
  intro value origin b
  unfold readBool
  split
  · rename_i held
    constructor
    · rintro ⟨⟩
      exact .bool _
    · intro meant
      cases meant with
      | bool => rfl
      | true not_bool => exact absurd rfl (not_bool held)
      | false not_bool => exact absurd rfl (not_bool held)
  · rename_i not_bool
    simp only [bind_eq_ok_iff, shownValue_eq_ok_iff]
    constructor
    · rintro ⟨shown, shown_eq, read⟩
      split at read
      · rename_i stands
        cases read
        exact .true not_bool ⟨shown, shown_eq, rfl⟩ (List.contains_iff_mem.mp stands)
      split at read
      · rename_i stands
        cases read
        exact .false not_bool ⟨shown, shown_eq, rfl⟩ (List.contains_iff_mem.mp stands)
      · cases read
    · intro meant
      cases meant with
      | bool b => exact absurd rfl (not_bool b)
      | true _ spells stands =>
          obtain ⟨shown, shown_eq, rfl⟩ := spells
          refine ⟨shown, shown_eq, ?_⟩
          rw [if_pos (List.contains_iff_mem.mpr stands)]
          rfl
      | false _ spells stands =>
          obtain ⟨shown, shown_eq, rfl⟩ := spells
          refine ⟨shown, shown_eq, ?_⟩
          -- Words that stand for true are looked up first.
          rw [if_neg (mt List.contains_iff_mem.mp (not_mem_trueWords stands)),
            if_pos (List.contains_iff_mem.mpr stands)]
          rfl

theorem text?_eq_some_iff {value : Value} {text : List CodePoint} :
    value.text? = some text ↔ value = .text text := by
  cases value <;> simp [Value.text?]

theorem mapM_text?_eq_some_iff {items : List Value} {texts : List (List CodePoint)} :
    items.mapM Value.text? = some texts ↔ items = texts.map .text := by
  induction items generalizing texts with
  | nil => cases texts <;> simp
  | cons item items ih =>
      cases texts with
      | nil => simp [Option.bind_eq_some_iff]
      | cons text texts => simp [Option.bind_eq_some_iff, text?_eq_some_iff, ih]

theorem readNames_takes : Takes readNames ListsNames := by
  intro value origin names
  unfold readNames
  constructor
  · intro read
    split at read
    · cases read
      exact .null
    · cases read
      exact .text _
    · split at read
      · rename_i texts listed
        cases read
        obtain rfl := mapM_text?_eq_some_iff.mp listed
        exact .list _ texts
      · cases read
    · cases read
  · intro meant
    cases meant with
    | null => rfl
    | text text => rfl
    | list label texts =>
        dsimp only
        rw [mapM_text?_eq_some_iff.mpr rfl]

/-! ## The highest source decides -/

/-- A setting is what the first of its sources with a value means, or else the default. -/
inductive Decides {Setting : Type} (Means : Value → Setting → Prop) (default : Setting) :
    List (Option Value) → Setting → Prop
  | default : Decides Means default [] default
  | given {value : Value} {lower : List (Option Value)} {setting : Setting}
      (meant : Means value setting) : Decides Means default (some value :: lower) setting
  | silent {lower : List (Option Value)} {setting : Setting}
      (below : Decides Means default lower setting) :
      Decides Means default (none :: lower) setting

section Decides

variable {Setting : Type} {read : Value → String → Except SettingFault Setting}
  {Means : Value → Setting → Prop} {default setting kept : Setting} {lower : List (Option Value)}

/-- Reading one more source above others. -/
theorem Decides.override (takes : Takes read Means) (below : Decides Means default lower kept)
    {value : Option Value} {origin : String}
    (read_eq : override read value origin kept = .ok setting) :
    Decides Means default (value :: lower) setting := by
  cases value with
  | none =>
      cases read_eq
      exact .silent below
  | some value => exact .given ((takes value origin setting).mp (mapError_eq_ok_iff.mp read_eq))

end Decides

/-- What one source holds for each setting. -/
structure Layer where
  /-- The mode. -/
  mode : Option Value
  /-- How reports are shown. -/
  format : Option Value
  /-- Whether warnings count as failures. -/
  strict : Option Value
  /-- Names of built-in checks that do not run. -/
  disabledChecks : Option Value

/-- What a settings file holds. -/
def Layer.ofMapping (mapping : Mapping) : Layer :=
  { mode := mapping.get? "mode"
    format := mapping.get? "format"
    strict := mapping.get? "strict"
    disabledChecks := mapping.get? "disabled_checks" }

/-- What the variables hold. The first two count as absent if they are empty. -/
def Layer.ofVariables (world : World) : Layer :=
  { mode := filledVariable world modeVariable
    format := filledVariable world formatVariable
    strict := variableValue world strictVariable
    disabledChecks := variableValue world disabledVariable }

/-- Each setting is decided by what the layers, from the highest one on, hold for it. -/
structure Decided (layers : List Layer) (settings : Settings) : Prop where
  /-- The mode, the fast one by default. -/
  mode : Decides SpellsMode .fast (layers.map (·.mode)) settings.mode
  /-- The format, text by default. -/
  format : Decides SpellsFormat .text (layers.map (·.format)) settings.format
  /-- Strictness, off by default. -/
  strict : Decides SpellsBool false (layers.map (·.strict)) settings.strict
  /-- Checks that do not run, none by default; the lists of lower layers are not added. -/
  disabledChecks :
    Decides ListsNames [] (layers.map (·.disabledChecks)) settings.disabledChecks

section Decided

variable {lower : List Layer} {settings next : Settings}

theorem decided_default : Decided [] .default where
  mode := .default
  format := .default
  strict := .default
  disabledChecks := .default

/-- Reading one more layer above others. -/
theorem Decided.override {layer : Layer} {modeOrigin formatOrigin strictOrigin : String}
    {namesOrigin : String} {mode : CheckMode} {format : OutputFormat} {strict : Bool}
    {disabledChecks : List String} {source : Option Path} (below : Decided lower settings)
    (mode_eq : override readMode layer.mode modeOrigin settings.mode = .ok mode)
    (format_eq : override readFormat layer.format formatOrigin settings.format = .ok format)
    (strict_eq : override readBool layer.strict strictOrigin settings.strict = .ok strict)
    (names_eq :
      override readNames layer.disabledChecks namesOrigin settings.disabledChecks =
        .ok disabledChecks) :
    Decided (layer :: lower) { mode, format, strict, disabledChecks, source } where
  mode := below.mode.override readMode_takes mode_eq
  format := below.format.override readFormat_takes format_eq
  strict := below.strict.override readBool_takes strict_eq
  disabledChecks := below.disabledChecks.override readNames_takes names_eq

theorem Decided.applyFile {path : Path} {mapping : Mapping} (below : Decided lower settings)
    (applied : applyFile path mapping settings = .ok next) :
    Decided (.ofMapping mapping :: lower) next := by
  obtain ⟨mode, mode_eq, applied⟩ := bind_eq_ok_iff.mp applied
  obtain ⟨format, format_eq, applied⟩ := bind_eq_ok_iff.mp applied
  obtain ⟨strict, strict_eq, applied⟩ := bind_eq_ok_iff.mp applied
  obtain ⟨names, names_eq, applied⟩ := bind_eq_ok_iff.mp applied
  cases applied
  exact below.override mode_eq format_eq strict_eq names_eq

theorem Decided.applyVariables {world : World} (below : Decided lower settings)
    (applied : applyVariables world settings = .ok next) :
    Decided (.ofVariables world :: lower) next := by
  obtain ⟨mode, mode_eq, applied⟩ := bind_eq_ok_iff.mp applied
  obtain ⟨format, format_eq, applied⟩ := bind_eq_ok_iff.mp applied
  obtain ⟨strict, strict_eq, applied⟩ := bind_eq_ok_iff.mp applied
  obtain ⟨names, names_eq, applied⟩ := bind_eq_ok_iff.mp applied
  cases applied
  exact below.override mode_eq format_eq strict_eq names_eq

end Decided

/-- What the settings file holds: nothing if there is none where one may be. -/
inductive FileHolds (world : World) : Mapping → Prop
  | absent (unnamed : namedFile? world = none) (status : world.files (path world) = .absent) :
      FileHolds world .empty
  | held {bytes : List UInt8} {mapping : Mapping}
      (status : world.files (path world) = .file bytes)
      (read : readMapping (path world) bytes = .ok mapping) : FileHolds world mapping

theorem loadFile_decided {world : World} {loaded : Loaded} (loads : loadFile world = .ok loaded) :
    ∃ file, FileHolds world file ∧ Decided [.ofMapping file] loaded.settings := by
  simp only [loadFile] at loads
  rw [← path] at loads
  split at loads
  · cases loads
  · rename_i status
    split at loads
    · cases loads
    · rename_i unnamed
      cases loads
      refine ⟨.empty, .absent (Option.not_isSome_iff_eq_none.mp unnamed) status, ?_⟩
      exact
        { mode := .silent .default
          format := .silent .default
          strict := .silent .default
          disabledChecks := .silent .default }
  · cases loads
  · rename_i bytes status
    obtain ⟨mapping, read, loads⟩ := bind_eq_ok_iff.mp loads
    obtain ⟨settings, applied, loads⟩ := bind_eq_ok_iff.mp loads
    obtain ⟨warnings, -, loads⟩ := bind_eq_ok_iff.mp loads
    cases loads
    exact ⟨mapping, .held status read, decided_default.applyFile applied⟩

/-- Loaded settings are decided by the variables, above the settings file. -/
theorem load_decided {world : World} {loaded : Loaded} (loads : load world = .ok loaded) :
    ∃ file, FileHolds world file ∧
      Decided [.ofVariables world, .ofMapping file] loaded.settings := by
  obtain ⟨ofFile, file_loads, loads⟩ := bind_eq_ok_iff.mp loads
  obtain ⟨settings, applied, loads⟩ := bind_eq_ok_iff.mp loads
  cases loads
  obtain ⟨file, holds, decided⟩ := loadFile_decided file_loads
  exact ⟨file, holds, decided.applyVariables applied⟩

end Settings

end BundleLint
