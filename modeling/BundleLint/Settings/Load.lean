import BundleLint.FileSystem
import BundleLint.Settings
import BundleLint.Yaml.Load
import BundleLint.Yaml.Source

/-!
# Loading the settings

Each setting comes from its variable, else from the settings file, else from the defaults. The file
is the one that a variable names, else a file of a fixed name in the working directory if there is
one. Unknown keys of the file are passed over with a warning.
-/

namespace BundleLint

/-- What the program finds around it. Without a working directory the settings file in it cannot be
looked up. -/
structure World where
  /-- The files. -/
  files : Files
  /-- The working directory. -/
  workingDirectory : Path
  /-- The variables. -/
  environment : String → Option String

/-- Variable that names the settings file. -/
def fileVariable : String := "BUNDLE_HEALTH_CONFIG"

/-- Variable for the mode. -/
def modeVariable : String := "BUNDLE_HEALTH_MODE"

/-- Variable for the format. -/
def formatVariable : String := "BUNDLE_HEALTH_FORMAT"

/-- Variable for strictness. -/
def strictVariable : String := "BUNDLE_HEALTH_STRICT"

/-- Variable for the checks that do not run. -/
def disabledVariable : String := "BUNDLE_HEALTH_DISABLED_CHECKS"

/-- Name of the settings file in the working directory. -/
def settingsFileName : String := ".bundle-health.yaml"

/-- What is wrong with the settings. -/
inductive ConfigurationFault where
  /-- A setting cannot be read. -/
  | setting (fault : SettingFault)
  /-- The file that a variable names is not there. -/
  | missing (path : Path)
  /-- The file cannot be read. -/
  | unreadable (path : Path) (error : SystemError)
  /-- The file is not a document; the text tells what is wrong with it. -/
  | notDocument (path : Path) (text : String)
  /-- The file holds something else than a mapping. -/
  | notMapping (path : Path) (value : Value)

/-- Wording of what is wrong with the settings. -/
def ConfigurationFault.message : ConfigurationFault → String
  | .setting fault => fault.message
  | .missing path =>
    "Config file named by " ++ fileVariable ++ " does not exist: " ++ path.text
  | .unreadable path error =>
    "Failed to read config file " ++ path.text ++ ": " ++ error.message
  | .notDocument path text => "Invalid YAML in config file " ++ path.text ++ ": " ++ text
  | .notMapping path value =>
    "Config file " ++ path.text ++ " must contain a mapping, got " ++ value.typeName

/-- Why the settings cannot be loaded. -/
inductive LoadFault where
  /-- They are wrong. -/
  | configuration (fault : ConfigurationFault)
  /-- A value to be shown in a message has no text. -/
  | untold (fault : TextFault)
  /-- The file cannot be looked up. -/
  | system (error : SystemError)
  /-- The reader broke off with a fault that is not reported as a wrong file. -/
  | reader (fault : Yaml.Fault)
  /-- The first unknown key is not a text but has the named type. -/
  | keyType (name : String)
  /-- Two unknown keys of the named types cannot be put in order. -/
  | keyOrder (left right : String)
  /-- A date without a time among the unknown keys cannot be put in order with one with a time. -/
  | dateOrder
  /-- A time with a zone among the unknown keys cannot be put in order with one without a zone. -/
  | zoneOrder

/-- Wording of why the settings cannot be loaded. -/
def LoadFault.message : LoadFault → String
  | .configuration fault => fault.message
  | .untold fault => fault.message
  | .system error => error.message
  | .reader _ => ""
  | .keyType name => "sequence item 0: expected str instance, " ++ name ++ " found"
  | .keyOrder left right =>
    "'<' not supported between instances of '" ++ left ++ "' and '" ++ right ++ "'"
  | .dateOrder => "can't compare datetime.datetime to datetime.date"
  | .zoneOrder => "can't compare offset-naive and offset-aware datetimes"

namespace Settings

/-- The fault of a setting as a fault of loading. -/
def settingFault : SettingFault → LoadFault
  | .untold fault => .untold fault
  | fault => .configuration (.setting fault)

/-- A place in a file, counted from one. -/
def placeText (path : Path) (position : Yaml.Position) : String :=
  "  in \x22" ++ path.text ++ "\x22, line " ++ toString (position.line + 1) ++ ", column " ++
    toString (position.column + 1)

/-- A complaint with its places. The place of the context is left out if it is the same. -/
def complaintText (path : Path) (text : List Char) (complaint : Yaml.Complaint) : String :=
  let place := Yaml.positionAfter text complaint.start
  let contextPlace :=
    (complaint.contextStart.map (Yaml.positionAfter text)).filter (· != place)
  "\n".intercalate
    ((complaint.context.map (·.message)).toList ++ (contextPlace.map (placeText path)).toList ++
      [complaint.problem.message, placeText path place])

/-- The fault of a document as a fault of loading. -/
def documentFault (path : Path) (text : List Char) : Yaml.Fault → LoadFault
  | .complaint complaint => .configuration (.notDocument path (complaintText path text complaint))
  | .unprintable c start =>
    .configuration (.notDocument path (Yaml.unprintableMessage path.text c start))
  | fault => .reader fault

/-- The mapping that the bytes of a file hold. -/
def readMapping (path : Path) (bytes : List UInt8) : Except LoadFault Mapping := do
  let source ← (Yaml.Source.ofBytes bytes).mapError (documentFault path [])
  match ← (Yaml.load source).mapError (documentFault path source.text) with
  | none => return .empty
  | some document =>
    match document.value with
    | .null => return .empty
    | .map label entries => return { label, entries }
    | value => throw (.configuration (.notMapping path value))

/-- Keys of the settings file. -/
def knownKeys : List String := ["mode", "format", "strict", "disabled_checks"]

/-- Keys of a mapping that are no settings, in order. -/
def unknownKeys (mapping : Mapping) : List Value :=
  (mapping.entries.map (·.1)).filter fun key =>
    !knownKeys.any fun known => sameKey key (.text known)

/-- What keys can be put in order with each other. -/
inductive KeyGroup where
  /-- Numbers. -/
  | number
  /-- Dates without a time. -/
  | date
  /-- Dates with a time, and whether they have a zone. -/
  | moment (zoned : Bool)
  /-- Other keys of the named type. -/
  | other (typeName : String)
  deriving DecidableEq, Repr

/-- The group of a key. -/
def KeyGroup.of : Value → KeyGroup
  | .bool _ | .int _ | .float _ => .number
  | .date _ => .date
  | .moment time => .moment time.offset.isSome
  | key => .other key.typeName

/-- Fault of two keys of different groups. -/
def orderFault (left right : Value) : LoadFault :=
  match KeyGroup.of left, KeyGroup.of right with
  | .date, .moment _ | .moment _, .date => .dateOrder
  | .moment _, .moment _ => .zoneOrder
  | _, _ => .keyOrder left.fullTypeName right.fullTypeName

/-- Fault of unknown keys that are not all texts. -/
def keyFault (first : Value) (keys : List Value) : LoadFault :=
  match keys.find? fun key => KeyGroup.of key != KeyGroup.of first with
  | some key => orderFault key first
  | none =>
    let least := keys.foldl (fun least key => if isLess key least then key else least) first
    .keyType least.fullTypeName

/-- Warnings about the unknown keys of a file. -/
def keyWarnings (path : Path) (mapping : Mapping) : Except LoadFault (List String) :=
  match unknownKeys mapping with
  | [] => .ok []
  | first :: rest =>
    match (first :: rest).mapM Value.text? with
    | some names =>
      .ok
        ["Ignoring unknown keys in " ++ path.text ++ ": " ++
          ", ".intercalate ((Text.sorted Text.comesBefore names).map Text.shownString)]
    | none => .error (keyFault first rest)

/-- Reads a setting from a value, or keeps what it was. -/
def override {α : Type} (read : Value → String → Except SettingFault α) (value : Option Value)
    (origin : String) (kept : α) : Except LoadFault α :=
  match value with
  | none => .ok kept
  | some value => (read value origin).mapError settingFault

/-- Takes the settings that a mapping from a file gives. -/
def applyFile (path : Path) (mapping : Mapping) (settings : Settings) :
    Except LoadFault Settings := do
  let origin := path.text
  let mode ← override readMode (mapping.get? "mode") origin settings.mode
  let format ← override readFormat (mapping.get? "format") origin settings.format
  let strict ← override readBool (mapping.get? "strict") origin settings.strict
  let disabledChecks ←
    override readNames (mapping.get? "disabled_checks") origin settings.disabledChecks
  return { mode, format, strict, disabledChecks, source := some path }

/-- The value of a variable as a value of its own. -/
def variableValue (world : World) (name : String) : Option Value :=
  (world.environment name).map fun text => .text (Text.ofString text)

/-- The value of a variable that is not empty. -/
def filledVariable (world : World) (name : String) : Option Value :=
  ((world.environment name).filter (!·.isEmpty)).map fun text => .text (Text.ofString text)

/-- Takes the settings that variables give. An empty variable counts for strictness and for the
checks that do not run. -/
def applyVariables (world : World) (settings : Settings) : Except LoadFault Settings := do
  let mode ← override readMode (filledVariable world modeVariable) modeVariable settings.mode
  let format ←
    override readFormat (filledVariable world formatVariable) formatVariable settings.format
  let strict ← override readBool (variableValue world strictVariable) strictVariable settings.strict
  let disabledChecks ←
    override readNames (variableValue world disabledVariable) disabledVariable
      settings.disabledChecks
  return { settings with mode, format, strict, disabledChecks }

/-- Path of the settings file that a variable names. -/
def namedFile? (world : World) : Option Path :=
  ((world.environment fileVariable).filter (!·.isEmpty)).map Path.ofText

/-- Settings with the warnings that came up. -/
structure Loaded where
  /-- The settings. -/
  settings : Settings
  /-- Warnings in order. -/
  warnings : List String

/-- Loads the settings of the settings file. -/
def loadFile (world : World) : Except LoadFault Loaded := do
  let named := namedFile? world
  let path := named.getD (world.workingDirectory.join (.ofText settingsFileName))
  match world.files path with
  | .unseen error _ => throw (.system error)
  | .absent =>
    if named.isSome then throw (.configuration (.missing path))
    else return { settings := .default, warnings := [] }
  | .unreadable error => throw (.configuration (.unreadable path error))
  | .file bytes =>
    let mapping ← readMapping path bytes
    let settings ← applyFile path mapping .default
    return { settings, warnings := ← keyWarnings path mapping }

/-- Loads the settings. -/
def load (world : World) : Except LoadFault Loaded := do
  let loaded ← loadFile world
  return { loaded with settings := ← applyVariables world loaded.settings }

end Settings

end BundleLint
