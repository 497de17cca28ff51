import BundleLint.FileTree
import BundleLint.Settings.Load

/-!
# Settings kept between loads

Settings that were loaded are kept until they are dropped, whatever happens to files and variables
in between. A load that fails keeps nothing. Each load from outside makes a new object.
-/

namespace BundleLint

/-- Settings as an object that can be told from others with the same content. -/
structure SettingsObject where
  /-- Number of the object. -/
  serial : Nat
  /-- The settings. -/
  settings : Settings
  deriving DecidableEq, Repr

/-- The settings that are kept. -/
structure SettingsStore where
  /-- The object that is kept, if there is one. -/
  kept : Option SettingsObject
  /-- Number of the next object. -/
  nextSerial : Nat
  deriving DecidableEq, Repr

namespace SettingsStore

/-- The store before the first load. -/
def empty : SettingsStore := ⟨none, 0⟩

/-- What a load gives. -/
structure Answer where
  /-- The object. -/
  object : SettingsObject
  /-- Warnings that came up. -/
  warnings : List String

/-- Gives the kept object, or loads and keeps a new one. -/
def load (store : SettingsStore) (world : World) : Except LoadFault Answer × SettingsStore :=
  match store.kept with
  | some object => (.ok { object, warnings := [] }, store)
  | none =>
    match Settings.load world with
    | .error fault => (.error fault, store)
    | .ok loaded =>
      let object : SettingsObject := { serial := store.nextSerial, settings := loaded.settings }
      (.ok { object, warnings := loaded.warnings },
        { kept := some object, nextSerial := store.nextSerial + 1 })

/-- Drops the kept object. -/
def reset (store : SettingsStore) : SettingsStore :=
  { store with kept := none }

end SettingsStore

/-- What the settings can be loaded from, with what is kept of them. -/
structure SettingsSession where
  /-- The settings that are kept. -/
  store : SettingsStore
  /-- The files. -/
  tree : FileTree
  /-- The variables. -/
  environment : String → Option String

/-- A step of a session about settings. -/
inductive SettingsStep where
  /-- Loads the settings. -/
  | load
  /-- Drops the kept settings. -/
  | reset
  /-- Sets a variable, or takes it away. -/
  | setVariable (name : String) (value : Option String)
  /-- Puts something at a path. -/
  | write (path : Path) (item : Item)
  /-- Removes what is at a path. -/
  | delete (path : Path)

namespace SettingsSession

/-- What a session finds around it; `place` turns paths into paths of the tree. -/
def world (session : SettingsSession) (directory : Path) (place : Path → Path) : World :=
  { files := fun path => (session.tree.found (place path)).status path
    workingDirectory := directory
    environment := session.environment }

/-- Takes a step; a load gives an answer. -/
def step (directory : Path) (place : Path → Path) (session : SettingsSession) :
    SettingsStep → Option (Except LoadFault SettingsStore.Answer) × SettingsSession
  | .load =>
    let (answer, store) := session.store.load (session.world directory place)
    (some answer, { session with store })
  | .reset => (none, { session with store := session.store.reset })
  | .setVariable name value =>
    let environment := fun asked => if asked == name then value else session.environment asked
    (none, { session with environment })
  | .write path item => (none, { session with tree := session.tree.write path item })
  | .delete path => (none, { session with tree := session.tree.delete path })

end SettingsSession

end BundleLint
