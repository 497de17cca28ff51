import BundleLint.CommandLine
import BundleLint.Proofs.Outcome
import BundleLint.Proofs.Settings.Reader
import BundleLint.Settings.Store

/-!
# Settings that cannot be loaded

Loading the settings fails with a word about what is wrong with them, or it breaks off in one of a
few ways: the file cannot be looked up, the reader breaks off with something else than an error of
the document, a setting has no text that a message could show, or the unknown keys are not all
texts. Variables are never the reason.
-/

namespace BundleLint

/-- A fault that is no word about the settings. -/
def LoadFault.IsForeign (fault : LoadFault) : Prop :=
  ∀ wrong, fault ≠ .configuration wrong

namespace Settings

open Yaml (Fault Source)

section Override

variable {Setting : Type}

/-- A setting is absent, or it can be read. -/
def Fits (read : Value → String → Except SettingFault Setting) (value : Option Value)
    (origin : String) : Prop :=
  ∀ held, value = some held → ∃ setting, read held origin = .ok setting

variable {read : Value → String → Except SettingFault Setting} {value : Option Value}
  {origin : String} {kept : Setting}

theorem override_eq_ok_iff :
    (∃ setting, override read value origin kept = .ok setting) ↔ Fits read value origin := by
  unfold override Fits
  cases value with
  | none => simp
  | some held => cases read_eq : read held origin <;> simp [read_eq, Except.mapError]

/-- Reading a setting breaks off exactly on a value without a text. -/
def NeedsText (read : Value → String → Except SettingFault Setting) : Prop :=
  ∀ value origin fault, read value origin = .error (.untold fault) ↔ value.display = .error fault

theorem settingFault_cases (fault : SettingFault) :
    (∃ wrong, settingFault fault = .configuration wrong) ∨ ∃ own, fault = .untold own := by
  cases fault with
  | untold own => exact .inr ⟨own, rfl⟩
  | _ => exact .inl ⟨_, rfl⟩

theorem override_breaks {fault : LoadFault} (foreign : fault.IsForeign) :
    override read value origin kept = .error fault ↔
      ∃ own held, fault = .untold own ∧ value = some held ∧
        read held origin = .error (.untold own) := by
  unfold override
  cases value with
  | none => simp
  | some held =>
      dsimp only
      rw [mapError_eq_error_iff]
      constructor
      · rintro ⟨refusal, read_eq, rfl⟩
        rcases settingFault_cases refusal with ⟨wrong, fault_eq⟩ | ⟨own, rfl⟩
        · exact absurd fault_eq (foreign wrong)
        · exact ⟨own, held, rfl, rfl, read_eq⟩
      · rintro ⟨own, held, rfl, ⟨⟩, read_eq⟩
        exact ⟨_, read_eq, rfl⟩

theorem override_breaks_iff {fault : LoadFault} (foreign : fault.IsForeign)
    (needs_text : NeedsText read) :
    override read value origin kept = .error fault ↔
      ∃ own held, fault = .untold own ∧ value = some held ∧ held.display = .error own := by
  simp only [override_breaks foreign, needs_text _ origin]

theorem override_writes {fault : LoadFault} (foreign : fault.IsForeign)
    (writes : ∀ value origin own, read value origin ≠ .error (.untold own)) :
    override read value origin kept ≠ .error fault := by
  rw [Ne, override_breaks foreign]
  rintro ⟨own, held, -, -, broken⟩
  exact writes held origin own broken

end Override

theorem shownValue_bind_iff {Setting : Type} {value : Value}
    {next : List CodePoint → Except SettingFault Setting} {fault : TextFault}
    (writes : ∀ shown, next shown ≠ .error (.untold fault)) :
    shownValue value >>= next = .error (.untold fault) ↔ value.display = .error fault := by
  unfold shownValue
  cases value.display with
  | error own => simp [Except.mapError, bind, Except.bind]
  | ok shown => exact iff_of_false (writes shown) nofun

theorem readMode_needsText : NeedsText readMode := by
  intro value origin fault
  refine shownValue_bind_iff fun shown => ?_
  split <;> nofun

theorem readFormat_needsText : NeedsText readFormat := by
  intro value origin fault
  refine shownValue_bind_iff fun shown => ?_
  split <;> nofun

theorem readBool_needsText : NeedsText readBool := by
  intro value origin fault
  unfold readBool
  split
  · exact iff_of_false nofun nofun
  · refine shownValue_bind_iff fun shown => ?_
    split
    · nofun
    · split <;> nofun

theorem readNames_writes (value : Value) (origin : String) (fault : TextFault) :
    readNames value origin ≠ .error (.untold fault) := by
  unfold readNames
  split
  · nofun
  · nofun
  · split <;> nofun
  · nofun

/-- The first wrong setting of a file has no text, for the given reason. Names of checks are never
shown. -/
inductive Untold (path : Path) (mapping : Mapping) : TextFault → Prop
  | mode {value : Value} {fault : TextFault} (held : mapping.get? "mode" = some value)
      (no_text : value.display = .error fault) : Untold path mapping fault
  | format {value : Value} {fault : TextFault}
      (mode : Fits readMode (mapping.get? "mode") path.text)
      (held : mapping.get? "format" = some value) (no_text : value.display = .error fault) :
      Untold path mapping fault
  | strict {value : Value} {fault : TextFault}
      (mode : Fits readMode (mapping.get? "mode") path.text)
      (format : Fits readFormat (mapping.get? "format") path.text)
      (held : mapping.get? "strict" = some value) (no_text : value.display = .error fault) :
      Untold path mapping fault

/-- Taking the settings of a file breaks off exactly if the first wrong one has no text. -/
theorem applyFile_breaks_iff {path : Path} {mapping : Mapping} {settings : Settings}
    {fault : LoadFault} (foreign : fault.IsForeign) :
    applyFile path mapping settings = .error fault ↔
      ∃ own, fault = .untold own ∧ Untold path mapping own := by
  unfold applyFile
  dsimp only
  constructor
  · intro broken
    rcases bind_eq_error_iff.mp broken with mode_broken | ⟨mode, mode_eq, broken⟩
    · obtain ⟨own, value, rfl, held, no_text⟩ :=
        (override_breaks_iff foreign readMode_needsText).mp mode_broken
      exact ⟨own, rfl, .mode held no_text⟩
    have mode_fits := override_eq_ok_iff.mp ⟨mode, mode_eq⟩
    rcases bind_eq_error_iff.mp broken with format_broken | ⟨format, format_eq, broken⟩
    · obtain ⟨own, value, rfl, held, no_text⟩ :=
        (override_breaks_iff foreign readFormat_needsText).mp format_broken
      exact ⟨own, rfl, .format mode_fits held no_text⟩
    have format_fits := override_eq_ok_iff.mp ⟨format, format_eq⟩
    rcases bind_eq_error_iff.mp broken with strict_broken | ⟨strict, -, broken⟩
    · obtain ⟨own, value, rfl, held, no_text⟩ :=
        (override_breaks_iff foreign readBool_needsText).mp strict_broken
      exact ⟨own, rfl, .strict mode_fits format_fits held no_text⟩
    rcases bind_eq_error_iff.mp broken with names_broken | ⟨names, -, ended⟩
    · exact absurd names_broken (override_writes foreign readNames_writes)
    · cases ended
  · rintro ⟨own, rfl, untold⟩
    cases untold with
    | mode held no_text =>
        refine bind_eq_error_iff.mpr (.inl ?_)
        exact (override_breaks_iff foreign readMode_needsText).mpr ⟨own, _, rfl, held, no_text⟩
    | format mode_fits held no_text =>
        obtain ⟨mode, mode_eq⟩ := override_eq_ok_iff.mpr mode_fits
        refine bind_eq_error_iff.mpr (.inr ⟨mode, mode_eq, bind_eq_error_iff.mpr (.inl ?_)⟩)
        exact (override_breaks_iff foreign readFormat_needsText).mpr ⟨own, _, rfl, held, no_text⟩
    | strict mode_fits format_fits held no_text =>
        obtain ⟨mode, mode_eq⟩ := override_eq_ok_iff.mpr mode_fits
        obtain ⟨format, format_eq⟩ := override_eq_ok_iff.mpr format_fits
        refine bind_eq_error_iff.mpr (.inr ⟨mode, mode_eq, bind_eq_error_iff.mpr (.inr
          ⟨format, format_eq, bind_eq_error_iff.mpr (.inl ?_)⟩)⟩)
        exact (override_breaks_iff foreign readBool_needsText).mpr ⟨own, _, rfl, held, no_text⟩

/-- Variables are texts, so they are never the reason for breaking off. -/
theorem applyVariables_writes {world : World} {settings : Settings} {fault : LoadFault}
    (foreign : fault.IsForeign) : applyVariables world settings ≠ .error fault := by
  have shown {Setting : Type} {read : Value → String → Except SettingFault Setting}
      (needs_text : NeedsText read) {text : Option String} {origin : String} {kept : Setting} :
      override read (text.map fun text => .text (Text.ofString text)) origin kept ≠
        .error fault := by
    rw [Ne, override_breaks_iff foreign needs_text]
    rintro ⟨own, held, -, held_eq, no_text⟩
    obtain ⟨text, -, rfl⟩ := Option.map_eq_some_iff.mp held_eq
    cases no_text
  intro broken
  rcases bind_eq_error_iff.mp broken with mode_broken | ⟨mode, -, broken⟩
  · exact shown readMode_needsText mode_broken
  rcases bind_eq_error_iff.mp broken with format_broken | ⟨format, -, broken⟩
  · exact shown readFormat_needsText format_broken
  rcases bind_eq_error_iff.mp broken with strict_broken | ⟨strict, -, broken⟩
  · exact shown readBool_needsText strict_broken
  rcases bind_eq_error_iff.mp broken with names_broken | ⟨names, -, ended⟩
  · exact override_writes foreign readNames_writes names_broken
  · cases ended

theorem keyFault_isForeign (first : Value) (keys : List Value) :
    (keyFault first keys).IsForeign := by
  intro wrong
  unfold keyFault
  split
  · unfold orderFault
    split <;> nofun
  · nofun

theorem text?_eq_none_iff {value : Value} : value.text? = none ↔ ∀ text, value ≠ .text text := by
  cases value <;> simp [Value.text?]

theorem mapM_text?_eq_none_iff {keys : List Value} :
    keys.mapM Value.text? = none ↔ ∃ key ∈ keys, key.text? = none := by
  induction keys with
  | nil => simp
  | cons key keys ih =>
      simp only [List.mapM_cons, List.mem_cons, exists_eq_or_imp, ← ih]
      cases key.text? with
      | none => simp
      | some text => cases keys.mapM Value.text? <;> simp

/-- Warnings about unknown keys cannot be made exactly if these are not all texts. -/
theorem keyWarnings_eq_error_iff {path : Path} {mapping : Mapping} {fault : LoadFault} :
    keyWarnings path mapping = .error fault ↔
      ∃ first rest, unknownKeys mapping = first :: rest ∧
        (∃ key ∈ first :: rest, ∀ text, key ≠ .text text) ∧ fault = keyFault first rest := by
  unfold keyWarnings
  cases unknownKeys mapping with
  | nil => simp
  | cons first rest =>
      simp only [← text?_eq_none_iff, ← mapM_text?_eq_none_iff, List.cons.injEq,
        exists_and_left, exists_eq_left', and_assoc]
      cases names_eq : (first :: rest).mapM Value.text? with
      | some names => simp
      | none => simp [eq_comm]

/-- The path of the settings file. -/
def path (world : World) : Path :=
  (namedFile? world).getD (world.workingDirectory.join (.ofText settingsFileName))

/-- How loading the settings breaks off without a word about them. -/
inductive Escapes (world : World) : LoadFault → Prop
  | system {error : SystemError} {content : Except SystemError (List UInt8)}
      (status : world.files (path world) = .unseen error content) : Escapes world (.system error)
  | reader {bytes : List UInt8} {fault : Fault} (status : world.files (path world) = .file bytes)
      (breaks : BreaksOff bytes fault) : Escapes world (.reader fault)
  | untold {bytes : List UInt8} {mapping : Mapping} {fault : TextFault}
      (status : world.files (path world) = .file bytes)
      (read : readMapping (path world) bytes = .ok mapping)
      (untold : Untold (path world) mapping fault) : Escapes world (.untold fault)
  | keys {bytes : List UInt8} {mapping : Mapping} {settings : Settings} {first : Value}
      {rest : List Value} (status : world.files (path world) = .file bytes)
      (read : readMapping (path world) bytes = .ok mapping)
      (accepted : applyFile (path world) mapping .default = .ok settings)
      (unknown : unknownKeys mapping = first :: rest)
      (not_text : ∃ key ∈ first :: rest, ∀ text, key ≠ .text text) :
      Escapes world (keyFault first rest)

theorem documentFault_cases (path : Path) (text : List Char) (fault : Fault) :
    (Told fault ∧ ∃ wrong, documentFault path text fault = .configuration wrong) ∨
      (¬Told fault ∧ documentFault path text fault = .reader fault) := by
  cases fault with
  | complaint complaint => exact .inl ⟨trivial, _, rfl⟩
  | unprintable found start => exact .inl ⟨trivial, _, rfl⟩
  | undecodable malformed => exact .inr ⟨id, rfl⟩
  | value fault => exact .inr ⟨id, rfl⟩
  | unknownWord word => exact .inr ⟨id, rfl⟩
  | emptyNumber => exact .inr ⟨id, rfl⟩
  | notTimestamp => exact .inr ⟨id, rfl⟩
  | tooDeep => exact .inr ⟨id, rfl⟩

theorem documentFault_breaks_iff {path : Path} {text : List Char} {own : Fault}
    {fault : LoadFault} (foreign : fault.IsForeign) :
    documentFault path text own = fault ↔ ¬Told own ∧ fault = .reader own := by
  rcases documentFault_cases path text own with ⟨told, wrong, fault_eq⟩ | ⟨untold, fault_eq⟩
  · rw [fault_eq]
    exact iff_of_false (fun same => foreign wrong same.symm) fun untold => untold.1 told
  · rw [fault_eq]
    exact ⟨fun same => ⟨untold, same.symm⟩, fun same => same.2.symm⟩

theorem readMapping_breaks_iff {path : Path} {bytes : List UInt8} {fault : LoadFault}
    (foreign : fault.IsForeign) :
    readMapping path bytes = .error fault ↔
      ∃ own, fault = .reader own ∧ BreaksOff bytes own := by
  simp only [breaksOff_iff]
  unfold readMapping reading
  constructor
  · intro broken
    rcases bind_eq_error_iff.mp broken with refused | ⟨source, admitted, broken⟩
    · obtain ⟨own, own_eq, fault_eq⟩ := mapError_eq_error_iff.mp refused
      obtain ⟨untold, rfl⟩ := (documentFault_breaks_iff foreign).mp fault_eq
      exact ⟨own, rfl, bind_eq_error_iff.mpr (.inl own_eq), untold⟩
    rcases bind_eq_error_iff.mp broken with not_loaded | ⟨found, -, ended⟩
    · obtain ⟨own, own_eq, fault_eq⟩ := mapError_eq_error_iff.mp not_loaded
      obtain ⟨untold, rfl⟩ := (documentFault_breaks_iff foreign).mp fault_eq
      have admitted := mapError_eq_ok_iff.mp admitted
      exact ⟨own, rfl, bind_eq_error_iff.mpr (.inr ⟨source, admitted, own_eq⟩), untold⟩
    · split at ended
      · cases ended
      · split at ended
        · cases ended
        · cases ended
        · cases ended
          exact absurd rfl (foreign _)
  · rintro ⟨own, rfl, failed, untold⟩
    have fault_eq (text : List Char) : documentFault path text own = .reader own :=
      (documentFault_breaks_iff foreign).mpr ⟨untold, rfl⟩
    rcases bind_eq_error_iff.mp failed with refused | ⟨source, admitted, not_loaded⟩
    · exact bind_eq_error_iff.mpr (.inl (mapError_eq_error_iff.mpr ⟨own, refused, fault_eq _⟩))
    · refine bind_eq_error_iff.mpr (.inr ⟨source, ?_, bind_eq_error_iff.mpr (.inl ?_)⟩)
      · exact mapError_eq_ok_iff.mpr admitted
      · exact mapError_eq_error_iff.mpr ⟨own, not_loaded, fault_eq _⟩

/-- Loading the file of the settings breaks off in exactly the ways that are told apart. -/
theorem loadFile_breaks_iff {world : World} {fault : LoadFault} (foreign : fault.IsForeign) :
    loadFile world = .error fault ↔ Escapes world fault := by
  unfold loadFile
  dsimp only
  rw [← path]
  constructor
  · intro broken
    split at broken
    · rename_i status
      cases broken
      exact .system status
    · split at broken
      · cases broken
        exact absurd rfl (foreign _)
      · cases broken
    · cases broken
      exact absurd rfl (foreign _)
    · rename_i bytes status
      rcases bind_eq_error_iff.mp broken with unread | ⟨mapping, read, broken⟩
      · obtain ⟨own, rfl, breaks⟩ := (readMapping_breaks_iff foreign).mp unread
        exact .reader status breaks
      rcases bind_eq_error_iff.mp broken with unapplied | ⟨settings, accepted, broken⟩
      · obtain ⟨own, rfl, untold⟩ := (applyFile_breaks_iff foreign).mp unapplied
        exact .untold status read untold
      rcases bind_eq_error_iff.mp broken with unwarned | ⟨warnings, -, ended⟩
      · obtain ⟨first, rest, unknown, not_text, rfl⟩ := keyWarnings_eq_error_iff.mp unwarned
        exact .keys status read accepted unknown not_text
      · cases ended
  · intro escapes
    cases escapes with
    | system status =>
        rw [status]
        rfl
    | reader status breaks =>
        rw [status]
        refine bind_eq_error_iff.mpr (.inl ?_)
        exact (readMapping_breaks_iff foreign).mpr ⟨_, rfl, breaks⟩
    | untold status read untold =>
        rw [status]
        refine bind_eq_error_iff.mpr (.inr ⟨_, read, bind_eq_error_iff.mpr (.inl ?_)⟩)
        exact (applyFile_breaks_iff foreign).mpr ⟨_, rfl, untold⟩
    | keys status read accepted unknown not_text =>
        rw [status]
        refine bind_eq_error_iff.mpr (.inr ⟨_, read, bind_eq_error_iff.mpr (.inr
          ⟨_, accepted, bind_eq_error_iff.mpr (.inl ?_)⟩)⟩)
        exact keyWarnings_eq_error_iff.mpr ⟨_, _, unknown, not_text, rfl⟩

theorem Escapes.isForeign {world : World} {fault : LoadFault} (escapes : Escapes world fault) :
    fault.IsForeign := by
  cases escapes with
  | system status => nofun
  | reader status breaks => nofun
  | untold status read untold => nofun
  | keys status read accepted unknown not_text => exact keyFault_isForeign _ _

/-- Loading the settings fails with a word about them, or it breaks off in one of the ways that
are told apart. -/
theorem load_escapes_iff {world : World} {fault : LoadFault} :
    load world = .error fault ∧ fault.IsForeign ↔ Escapes world fault := by
  constructor
  · rintro ⟨broken, foreign⟩
    rcases bind_eq_error_iff.mp broken with unloaded | ⟨loaded, -, broken⟩
    · exact (loadFile_breaks_iff foreign).mp unloaded
    rcases bind_eq_error_iff.mp broken with refused | ⟨settings, -, ended⟩
    · exact absurd refused (applyVariables_writes foreign)
    · cases ended
  · intro escapes
    have foreign := escapes.isForeign
    exact ⟨bind_eq_error_iff.mpr (.inl ((loadFile_breaks_iff foreign).mpr escapes)), foreign⟩

end Settings

namespace CommandLine

/-- Running the checks never breaks off for the sake of the settings. -/
theorem runWith_ne_settings (files : Files) (time : String) (extend : Suite → Suite)
    (arguments : Arguments) (settings : Settings) (fault : LoadFault) :
    runWith files time extend arguments settings ≠ .error (.settings fault) := by
  unfold runWith
  dsimp only
  split
  · nofun
  · split
    · intro broken
      rcases bind_eq_error_iff.mp broken with unread | ⟨reports, -, shown⟩
      · obtain ⟨own, -, same⟩ := mapError_eq_error_iff.mp unread
        cases same
      · split at shown <;> cases shown
    · nofun

section Execute

variable {world : World} {time : String} {extend : Suite → Suite} {words : List String}
  {arguments : Arguments} (requested : readArguments words = .ok (.run arguments))

include requested

/-- A word about the settings ends the program. -/
theorem execute_of_configuration {wrong : ConfigurationFault}
    (refused : Settings.load world = .error (.configuration wrong)) :
    execute world time extend words = .ok (fatalError wrong.message) := by
  unfold execute
  rw [requested]
  dsimp only
  rw [refused]

/-- The program does not survive exactly what is no word about the settings. -/
theorem execute_eq_settings_iff {fault : LoadFault} :
    execute world time extend words = .error (.settings fault) ↔
      Settings.load world = .error fault ∧ fault.IsForeign := by
  unfold execute
  rw [requested]
  dsimp only
  cases Settings.load world with
  | error own =>
      cases own with
      | configuration wrong =>
          refine iff_of_false nofun ?_
          rintro ⟨⟨⟩, foreign⟩
          exact foreign wrong rfl
      | _ =>
          constructor
          · rintro ⟨⟩
            exact ⟨rfl, nofun⟩
          · rintro ⟨⟨⟩, -⟩
            rfl
  | ok loaded =>
      refine iff_of_false ?_ nofun
      have survives :=
        runWith_ne_settings world.files time extend arguments loaded.settings fault
      dsimp only
      cases ended : runWith world.files time extend arguments loaded.settings with
      | error crash =>
          rintro ⟨⟩
          exact survives ended
      | ok completion => nofun

end Execute

end CommandLine

namespace SettingsStore

open CommandLine (execute readArguments)

theorem load_of_dropped {store : SettingsStore} (dropped : store.kept = none) (world : World)
    (fault : LoadFault) :
    (store.load world).1 = .error fault ↔ Settings.load world = .error fault := by
  unfold load
  rw [dropped]
  cases Settings.load world with
  | error own => simp
  | ok loaded => simp

/-- Loading settings that are not kept fails with a word about them, or it breaks off in one of the
ways that are told apart. On a valid command line the program answers a word about the settings
with exit code two; what breaks off is exactly what it does not survive. -/
theorem load_breaks_iff {store : SettingsStore} (dropped : store.kept = none) (world : World) :
    (∀ fault,
      (store.load world).1 = .error fault ∧ (∀ wrong, fault ≠ .configuration wrong) ↔
        Settings.Escapes world fault) ∧
      ∀ (time : String) (extend : Suite → Suite) (words : List String)
          (arguments : CommandLine.Arguments),
        readArguments words = .ok (.run arguments) →
          (∀ wrong, (store.load world).1 = .error (.configuration wrong) →
            execute world time extend words =
              .ok
                { exitCode := 2, output := "", errors := "ERROR: " ++ wrong.message ++ "\n"
                  warnings := [] }) ∧
          ∀ fault,
            execute world time extend words = .error (.settings fault) ↔
              Settings.Escapes world fault := by
  simp only [load_of_dropped dropped]
  refine ⟨fun fault => Settings.load_escapes_iff, ?_⟩
  intro time extend words arguments requested
  refine ⟨fun wrong => CommandLine.execute_of_configuration requested, ?_⟩
  intro fault
  rw [CommandLine.execute_eq_settings_iff requested]
  exact Settings.load_escapes_iff

/-- A place with a settings file. -/
def worldWith (bytes : List UInt8) : World :=
  { files := fun _ => .file bytes
    workingDirectory := ⟨1, ["work"]⟩
    environment := fun _ => none }

/-- Whether a load ends with a word about the settings. -/
def isRefused : Except LoadFault Answer → Bool
  | .error (.configuration _) => true
  | _ => false

theorem isRefused_iff {loaded : Except LoadFault Answer} :
    isRefused loaded = true ↔ ∃ wrong, loaded = .error (.configuration wrong) := by
  rcases loaded with fault | answer
  · cases fault <;> simp [isRefused]
  · simp [isRefused]

theorem load_breaks_iff_slow :
    ∃ arguments wrong,
      empty.kept = none ∧ readArguments ["b.md"] = .ok (.run arguments) ∧
        (empty.load (worldWith "mode: slow\n".toUTF8.toList)).1 = .error (.configuration wrong) ∧
        execute (worldWith "mode: slow\n".toUTF8.toList) "" id ["b.md"] =
          .ok
            { exitCode := 2, output := "", errors := "ERROR: " ++ wrong.message ++ "\n"
              warnings := [] } := by
  have is_refused : isRefused (empty.load (worldWith "mode: slow\n".toUTF8.toList)).1 = true := by
    decide +kernel
  obtain ⟨wrong, refused⟩ := isRefused_iff.mp is_refused
  obtain ⟨-, answers⟩ :=
    load_breaks_iff (show empty.kept = none from rfl) (worldWith "mode: slow\n".toUTF8.toList)
  obtain ⟨told, -⟩ := answers "" id ["b.md"] _ rfl
  exact ⟨_, wrong, rfl, rfl, refused, told wrong refused⟩

theorem load_breaks_undecodable :
    ¬∀ (store : SettingsStore) (world : World), store.kept = none →
      (∃ answer, (store.load world).1 = .ok answer) ∨
        ∃ wrong, (store.load world).1 = .error (.configuration wrong) := by
  intro always_told
  have not_loaded : (empty.load (worldWith [0xFF])).1.isOk = false := by decide +kernel
  have not_refused : isRefused (empty.load (worldWith [0xFF])).1 = false := by decide +kernel
  rcases always_told empty (worldWith [0xFF]) rfl with ⟨answer, loaded⟩ | refused
  · rw [loaded] at not_loaded
    cases not_loaded
  · rw [isRefused_iff.mpr refused] at not_refused
    cases not_refused

end SettingsStore

end BundleLint
