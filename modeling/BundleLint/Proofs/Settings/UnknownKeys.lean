import BundleLint.Proofs.Check.Relevance
import BundleLint.Proofs.Settings.Load
import BundleLint.Proofs.Settings.Sources
import BundleLint.Proofs.Settings.Store
import BundleLint.Proofs.Text.Split

/-!
# Unknown keys of the settings file

Further keys change nothing but a warning that names them, as long as all of them are texts. With
one that is no text the settings cannot be loaded, however right they are.
-/

namespace BundleLint

open Settings (keyFault keyWarnings knownKeys readMapping unknownKeys)

/-- A mapping holds further keys, none of which is a setting. A value can refer back to the whole
mapping, so it is the values of settings only that are the same. -/
structure Mapping.Extends (base : Mapping) (added : List Value) (extended : Mapping) : Prop where
  /-- The further keys stand anywhere among the others. -/
  keys : (extended.entries.map (·.1)).Perm (base.entries.map (·.1) ++ added)
  /-- Settings keep their values, or stay absent. -/
  kept : ∀ known ∈ knownKeys, extended.get? known = base.get? known
  /-- No further key is a setting. -/
  foreign : ∀ known ∈ knownKeys, .text (Text.ofString known) ∉ added

/-- What is told of unknown keys: nothing if there are none, else one warning that names them in
order, each as often as it is there. -/
inductive Settings.TellsUnknown (path : Path) (keys : List Value) : List String → Prop
  | nothing (none : keys = []) : TellsUnknown path keys []
  | names {names : List (List CodePoint)} (some : keys ≠ []) (named : (names.map .text).Perm keys)
      (ordered : Text.InOrder names) :
      TellsUnknown path keys
        ["Ignoring unknown keys in " ++ path.text ++ ": " ++
          ", ".intercalate (names.map Text.shownString)]

namespace Settings

section Keys

variable {path : Path} {mapping base extended : Mapping} {added keys others : List Value}
  {warnings : List String}

theorem isUnknown_iff {key : Value} :
    (!knownKeys.any fun known => sameKey key (.text known)) = true ↔
      ∀ known ∈ knownKeys, key ≠ .text (Text.ofString known) := by
  simp only [Bool.not_eq_true', List.any_eq_false, Value.sameKey_text_iff, ne_eq]

/-- The unknown keys of a mapping with further keys are its own ones and all further ones. -/
theorem unknownKeys_perm (extension : base.Extends added extended) :
    (unknownKeys extended).Perm (unknownKeys base ++ added) := by
  have all_unknown :
      (added.filter fun key => !knownKeys.any fun known => sameKey key (.text known)) =
        added := by
    refine List.filter_eq_self.mpr fun key member => isUnknown_iff.mpr ?_
    rintro known is_known rfl
    exact extension.foreign known is_known member
  have filtered := extension.keys.filter
    fun key => !knownKeys.any fun known => sameKey key (.text known)
  rwa [List.filter_append, all_unknown] at filtered

/-- A further entry at the end of a mapping that does not contain itself. -/
theorem extends_concat (entries : List (Value × Value)) (key value : Value)
    (foreign : ∀ known ∈ knownKeys, key ≠ .text (Text.ofString known)) :
    Mapping.Extends ⟨none, entries⟩ [key] ⟨none, entries ++ [(key, value)]⟩ where
  keys := by rw [List.map_append, List.map_singleton]
  kept := by
    intro known is_known
    have passed_over : sameKey key (.text (Text.ofString known)) = false := by
      rw [← Bool.not_eq_true, Value.sameKey_text_iff]
      exact foreign known is_known
    simp [Mapping.get?, Value.part, passed_over]
  foreign := by
    intro known is_known member
    exact foreign known is_known (List.mem_singleton.mp member).symm

theorem TellsUnknown.perm (tells : TellsUnknown path keys warnings) (same : keys.Perm others) :
    TellsUnknown path others warnings := by
  cases tells with
  | nothing none =>
      rw [none] at same
      exact .nothing same.symm.eq_nil
  | names some named ordered =>
      refine .names ?_ (named.trans same) ordered
      rintro rfl
      exact some same.eq_nil

theorem tellsUnknown_of_keyWarnings (made : keyWarnings path mapping = .ok warnings) :
    TellsUnknown path (unknownKeys mapping) warnings := by
  unfold keyWarnings at made
  split at made
  · rename_i none
    cases made
    exact .nothing none
  · rename_i first rest unknown
    split at made
    · rename_i names named
      cases made
      have keys_eq : unknownKeys mapping = names.map .text := by
        rw [unknown, mapM_text?_eq_some_iff.mp named]
      refine .names (by simp [unknown]) ?_ (Text.sorted_inOrder names)
      rw [keys_eq]
      exact (Text.sorted_perm names).map _
    · cases made

/-- Warnings about unknown keys can be made exactly if all of these are texts. -/
theorem keyWarnings_isOk_iff :
    (∃ warnings, keyWarnings path mapping = .ok warnings) ↔
      ∀ key ∈ unknownKeys mapping, ∃ text, key = .text text := by
  cases made : keyWarnings path mapping with
  | error fault =>
      obtain ⟨first, rest, unknown, ⟨key, member, not_text⟩, -⟩ := keyWarnings_eq_error_iff.mp made
      refine iff_of_false nofun fun all_texts => ?_
      obtain ⟨text, is_text⟩ := all_texts key (unknown ▸ member)
      exact not_text text is_text
  | ok warnings =>
      refine iff_of_true ⟨warnings, rfl⟩ fun key member => ?_
      by_contra not_text
      cases unknown : unknownKeys mapping with
      | nil => simp [unknown] at member
      | cons first rest =>
          have broken : keyWarnings path mapping = .error (keyFault first rest) :=
            keyWarnings_eq_error_iff.mpr
              ⟨first, rest, unknown, ⟨key, unknown ▸ member, not_exists.mp not_text⟩, rfl⟩
          cases made.symm.trans broken

theorem applyFile_of_extends (extension : base.Extends added extended) (settings : Settings) :
    applyFile path extended settings = applyFile path base settings := by
  unfold applyFile
  rw [extension.kept "mode" (by decide), extension.kept "format" (by decide),
    extension.kept "strict" (by decide), extension.kept "disabled_checks" (by decide)]

end Keys

section Load

variable {world : World} {others : Files} {bytes more : List UInt8}
  {mapping base extended : Mapping} {added : List Value}

/-- Loading from a file that is a mapping: its settings, then those of the variables. -/
theorem load_eq_ok_iff (held : world.files (path world) = .file bytes)
    (read : readMapping (path world) bytes = .ok mapping) {loaded : Loaded} :
    load world = .ok loaded ↔
      ∃ ofFile, applyFile (path world) mapping .default = .ok ofFile ∧
        keyWarnings (path world) mapping = .ok loaded.warnings ∧
        applyVariables world ofFile = .ok loaded.settings := by
  have file_eq :
      loadFile world = applyFile (path world) mapping .default >>= fun settings =>
        keyWarnings (path world) mapping >>= fun warnings => .ok { settings, warnings } := by
    unfold loadFile
    dsimp only
    rw [← path, held]
    dsimp only
    rw [read]
    rfl
  unfold load
  rw [file_eq]
  constructor
  · intro loads
    obtain ⟨fromFile, file_loads, loads⟩ := bind_eq_ok_iff.mp loads
    obtain ⟨ofFile, applied, file_loads⟩ := bind_eq_ok_iff.mp file_loads
    obtain ⟨warnings, warned, file_loads⟩ := bind_eq_ok_iff.mp file_loads
    obtain ⟨settings, decided, loads⟩ := bind_eq_ok_iff.mp loads
    cases file_loads
    cases loads
    exact ⟨ofFile, applied, warned, decided⟩
  · rintro ⟨ofFile, applied, warned, decided⟩
    refine bind_eq_ok_iff.mpr ⟨⟨ofFile, loaded.warnings⟩, ?_, ?_⟩
    · exact bind_eq_ok_iff.mpr ⟨ofFile, applied, bind_eq_ok_iff.mpr ⟨_, warned, rfl⟩⟩
    · exact bind_eq_ok_iff.mpr ⟨loaded.settings, decided, rfl⟩

variable (held : world.files (path world) = .file bytes)
  (read : readMapping (path world) bytes = .ok base)
  (other_held : others (path world) = .file more)
  (other_read : readMapping (path world) more = .ok extended)
  (extension : base.Extends added extended)

include held read other_held other_read extension

theorem load_of_added_texts {loaded : Loaded} (loads : load world = .ok loaded)
    (texts : ∀ key ∈ added, ∃ text, key = .text text) :
    ∃ warnings, load { world with files := others } = .ok { loaded with warnings } ∧
      TellsUnknown (path world) (unknownKeys base ++ added) warnings := by
  obtain ⟨ofFile, applied, warned, decided⟩ := (load_eq_ok_iff held read).mp loads
  have own_texts := keyWarnings_isOk_iff.mp ⟨loaded.warnings, warned⟩
  have all_texts : ∀ key ∈ unknownKeys extended, ∃ text, key = .text text := by
    intro key member
    rcases List.mem_append.mp ((unknownKeys_perm extension).mem_iff.mp member) with own | further
    · exact own_texts key own
    · exact texts key further
  have warns : ∃ warnings, keyWarnings (path world) extended = .ok warnings :=
    keyWarnings_isOk_iff.mpr all_texts
  obtain ⟨warnings, other_warned⟩ := warns
  refine ⟨warnings, ?_, ?_⟩
  · -- The variables and the path of the file do not depend on the files.
    have other_applied : applyFile (path world) extended .default = .ok ofFile :=
      (applyFile_of_extends extension _).trans applied
    have other_file : ({ world with files := others } : World).files (path world) = .file more :=
      other_held
    exact (load_eq_ok_iff other_file other_read).mpr
      ⟨ofFile, other_applied, other_warned, decided⟩
  · exact (tellsUnknown_of_keyWarnings other_warned).perm (unknownKeys_perm extension)

theorem load_of_added_other {loaded : Loaded} (loads : load world = .ok loaded)
    (not_text : ∃ key ∈ added, ∀ text, key ≠ .text text) :
    ∃ first rest, (first :: rest).Perm (unknownKeys base ++ added) ∧
      load { world with files := others } = .error (keyFault first rest) := by
  obtain ⟨ofFile, applied, -, -⟩ := (load_eq_ok_iff held read).mp loads
  obtain ⟨key, further, key_not_text⟩ := not_text
  have same_keys := unknownKeys_perm extension
  have member : key ∈ unknownKeys extended :=
    same_keys.mem_iff.mpr (List.mem_append_right _ further)
  cases unknown : unknownKeys extended with
  | nil => simp [unknown] at member
  | cons first rest =>
      rw [unknown] at member same_keys
      have escapes : Escapes { world with files := others } (keyFault first rest) :=
        .keys other_held other_read ((applyFile_of_extends extension _).trans applied) unknown
          ⟨key, member, key_not_text⟩
      exact ⟨first, rest, same_keys, (load_escapes_iff.mpr escapes).1⟩

end Load

end Settings

namespace SettingsStore

open Settings (TellsUnknown path)

/-- Further keys in a settings file that was right. If all of them are texts, the settings and the
store come out as before, and a warning names the unknown keys. With one that is no text the load
breaks off with a fault of the keys, which is no word about the settings, and keeps nothing. -/
theorem load_with_unknown_keys {store : SettingsStore} (dropped : store.kept = none)
    {world : World} {others : Files} {bytes more : List UInt8} {base extended : Mapping}
    {added : List Value} (held : world.files (path world) = .file bytes)
    (read : readMapping (path world) bytes = .ok base)
    (other_held : others (path world) = .file more)
    (other_read : readMapping (path world) more = .ok extended)
    (extension : base.Extends added extended) {answer : Answer}
    (loads : (store.load world).1 = .ok answer) :
    ((∀ key ∈ added, ∃ text, key = .text text) →
      ∃ warnings,
        store.load { world with files := others } =
            (.ok { answer with warnings }, (store.load world).2) ∧
          TellsUnknown (path world) (unknownKeys base ++ added) warnings) ∧
      ((∃ key ∈ added, ∀ text, key ≠ .text text) →
        ∃ first rest, (first :: rest).Perm (unknownKeys base ++ added) ∧
          store.load { world with files := others } = (.error (keyFault first rest), store) ∧
          (keyFault first rest).IsForeign) := by
  cases loading : Settings.load world with
  | error fault =>
      rw [load_of_error dropped loading] at loads
      cases loads
  | ok loaded =>
      rw [load_of_ok dropped loading] at loads ⊢
      cases loads
      constructor
      · intro texts
        obtain ⟨warnings, other_loading, tells⟩ :=
          Settings.load_of_added_texts held read other_held other_read extension loading texts
        exact ⟨warnings, load_of_ok dropped other_loading, tells⟩
      · intro not_text
        obtain ⟨first, rest, same_keys, other_loading⟩ :=
          Settings.load_of_added_other held read other_held other_read extension loading not_text
        exact ⟨first, rest, same_keys, load_of_error dropped other_loading,
          Settings.keyFault_isForeign first rest⟩

/-- Whether two values are the same text or the same integer. -/
def sameAtom : Value → Value → Bool
  | .text own, .text other => own == other
  | .int own, .int other => own == other
  | _, _ => false

/-- Whether a settings file is read as these entries of texts and integers. -/
def holdsEntries (bytes : List UInt8) (entries : List (Value × Value)) : Bool :=
  match readMapping (path (worldWith bytes)) bytes with
  | .ok mapping =>
    mapping.label.isNone && mapping.entries.isEqv entries fun own entry =>
      sameAtom own.1 entry.1 && sameAtom own.2 entry.2
  | .error _ => false

theorem eq_of_sameAtom {own other : Value} (same : sameAtom own other = true) : own = other := by
  cases own <;> cases other <;> simp_all [sameAtom]

theorem eq_of_isEqv {Item : Type} {same : Item → Item → Bool}
    (sound : ∀ own other, same own other = true → own = other) {items others : List Item}
    (equal : items.isEqv others same = true) : items = others := by
  induction items generalizing others with
  | nil => cases others with
    | nil => rfl
    | cons => cases equal
  | cons item items ih => cases others with
    | nil => cases equal
    | cons other others =>
        rw [List.isEqv, Bool.and_eq_true] at equal
        rw [sound item other equal.1, ih equal.2]

theorem read_of_holdsEntries {bytes : List UInt8} {entries : List (Value × Value)}
    (holds : holdsEntries bytes entries = true) :
    readMapping (path (worldWith bytes)) bytes = .ok ⟨none, entries⟩ := by
  unfold holdsEntries at holds
  split at holds
  · rename_i mapping read
    rw [Bool.and_eq_true, Option.isNone_iff_eq_none] at holds
    obtain ⟨unlabelled, equal⟩ := holds
    have entries_eq : mapping.entries = entries := by
      refine eq_of_isEqv ?_ equal
      intro own entry same
      rw [Bool.and_eq_true] at same
      exact Prod.ext (eq_of_sameAtom same.1) (eq_of_sameAtom same.2)
    rw [read, ← unlabelled, ← entries_eq]
  · cases holds

/-- A settings file. -/
def fastFile : List UInt8 := "mode: fast\n".toUTF8.toList

/-- The settings file with a key that is unknown. -/
def colouredFile : List UInt8 := "mode: fast\ncolour: blue\n".toUTF8.toList

/-- The settings file with an integer as a key. -/
def numberedFile : List UInt8 := "mode: fast\n1: x\n".toUTF8.toList

theorem fastFile_read :
    readMapping (path (worldWith fastFile)) fastFile =
      .ok ⟨none, [(.text (Text.ofString "mode"), .text (Text.ofString "fast"))]⟩ :=
  read_of_holdsEntries (by decide +kernel)

theorem fastFile_loads : ∃ answer, (empty.load (worldWith fastFile)).1 = .ok answer :=
  isOk_iff.mp (by decide +kernel)

theorem load_with_unknown_keys_colour :
    ∃ answer warnings,
      (empty.load (worldWith fastFile)).1 = .ok answer ∧
        empty.load (worldWith colouredFile) =
          (.ok { answer with warnings }, (empty.load (worldWith fastFile)).2) ∧
        TellsUnknown (path (worldWith fastFile)) [.text (Text.ofString "colour")] warnings := by
  have coloured_read :
      readMapping (path (worldWith colouredFile)) colouredFile =
        .ok ⟨none, [(.text (Text.ofString "mode"), .text (Text.ofString "fast")),
          (.text (Text.ofString "colour"), .text (Text.ofString "blue"))]⟩ :=
    read_of_holdsEntries (by decide +kernel)
  have foreign : ∀ known ∈ knownKeys, Text.ofString "colour" ≠ Text.ofString known := by decide
  obtain ⟨answer, loads⟩ := fastFile_loads
  have extension :=
    Settings.extends_concat [(.text (Text.ofString "mode"), .text (Text.ofString "fast"))]
      (.text (Text.ofString "colour")) (.text (Text.ofString "blue"))
      fun known is_known same => foreign known is_known (Value.text.inj same)
  have coloured_held (path : Path) :
      (worldWith colouredFile).files path = .file colouredFile := rfl
  obtain ⟨with_texts, -⟩ :=
    load_with_unknown_keys (show empty.kept = none from rfl) rfl fastFile_read
      (coloured_held _) coloured_read extension loads
  obtain ⟨warnings, other_loads, tells⟩ := with_texts (by simp)
  exact ⟨answer, warnings, loads, other_loads, tells⟩

theorem load_with_unknown_keys_integer :
    ¬∀ (store : SettingsStore) (world : World) (others : Files) (bytes more : List UInt8)
        (base extended : Mapping) (added : List Value) (answer : Answer),
      store.kept = none → world.files (path world) = .file bytes →
        readMapping (path world) bytes = .ok base → others (path world) = .file more →
          readMapping (path world) more = .ok extended → base.Extends added extended →
            (store.load world).1 = .ok answer →
              ∃ other, (store.load { world with files := others }).1 = .ok other := by
  intro always_loads
  have numbered_read :
      readMapping (path (worldWith numberedFile)) numberedFile =
        .ok ⟨none, [(.text (Text.ofString "mode"), .text (Text.ofString "fast")),
          (.int 1, .text (Text.ofString "x"))]⟩ :=
    read_of_holdsEntries (by decide +kernel)
  obtain ⟨answer, loads⟩ := fastFile_loads
  have extension :=
    Settings.extends_concat [(.text (Text.ofString "mode"), .text (Text.ofString "fast"))]
      (.int 1) (.text (Text.ofString "x")) nofun
  obtain ⟨other, other_loads⟩ :=
    always_loads empty (worldWith fastFile) (fun _ => .file numberedFile) fastFile numberedFile
      _ _ [.int 1] answer rfl rfl fastFile_read rfl numbered_read extension loads
  have not_loaded : (empty.load (worldWith numberedFile)).1.isOk = false := by decide +kernel
  rw [show (empty.load (worldWith numberedFile)).1 = .ok other from other_loads] at not_loaded
  cases not_loaded

end SettingsStore

end BundleLint
