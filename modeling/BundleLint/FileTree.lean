import BundleLint.FileSystem

/-!
# File trees

Trees of files below a working directory. A path is followed one component at a time: each component
but the last one must be a directory.
-/

namespace BundleLint

/-- What a tree holds at a place. -/
inductive Item where
  /-- A directory. -/
  | directory
  /-- A file. -/
  | file (bytes : List UInt8)
  deriving DecidableEq, Repr

/-- The files and directories below a working directory, by their components from there. -/
structure FileTree where
  /-- Places with what they hold. -/
  items : List (List String × Item)

namespace FileTree

/-- The empty working directory. -/
def empty : FileTree := ⟨[]⟩

/-- What is held at a place. -/
def item? (tree : FileTree) (place : List String) : Option Item :=
  if place.isEmpty then some .directory
  else (tree.items.find? fun (known, _) => known == place).map (·.2)

/-- Where a walk along a path has come. -/
inductive Stop where
  /-- At a place below the working directory, with its components in reverse. -/
  | below (reversed : List String)
  /-- At a directory above the working directory. -/
  | above

/-- Greatest number of bytes of a component. -/
def componentLimit : Nat := 255

/-- Least number of bytes of a path that is too long. -/
def pathLimit : Nat := 4096

/-- What a walk finds at its end. -/
inductive Found where
  /-- Nothing. -/
  | nothing
  /-- No end, since the path is too long. -/
  | tooLong
  /-- Something. -/
  | item (item : Item)

/-- What a file system says of a path for what is found there. -/
def Found.status (path : Path) : Found → Status
  | .nothing => .absent
  | .tooLong => .unseen (.tooLong path) (.error (.tooLong path))
  | .item .directory => .unreadable (.isDirectory path)
  | .item (.file bytes) => .file bytes

/-- Follows components from a place on. -/
def follow (tree : FileTree) : Stop → List String → Found
  | .below reversed, [] =>
    match tree.item? reversed.reverse with
    | none => .nothing
    | some item => .item item
  | .above, [] => .item .directory
  | .above, part :: parts =>
    if part == ".." then tree.follow .above parts
    else if componentLimit < part.utf8ByteSize then .tooLong
    else .nothing
  | .below reversed, part :: parts =>
    match tree.item? reversed.reverse with
    | some .directory =>
      if part == ".." then
        match reversed with
        | [] => tree.follow .above parts
        | _ :: outer => tree.follow (.below outer) parts
      else if componentLimit < part.utf8ByteSize then .tooLong
      else tree.follow (.below (part :: reversed)) parts
    | _ => .nothing

/-- What a tree has at a path. -/
def found (tree : FileTree) (path : Path) : Found :=
  if path.text.toList.contains '\x00' then .nothing
  else if pathLimit ≤ path.text.utf8ByteSize then .tooLong
  else tree.follow (if path.roots == 0 then .below [] else .above) path.parts

/-- What a tree says of a path. -/
def status (tree : FileTree) (path : Path) : Status :=
  (tree.found path).status path

/-- Sets what is held at a place. -/
def setItem (tree : FileTree) (place : List String) (item : Item) : FileTree :=
  ⟨(place, item) :: tree.items.filter fun (known, _) => known != place⟩

/-- The places of the directories on the way to a place. -/
def parents (place : List String) : List (List String) :=
  ((List.range place.length).map fun size => place.take size).filter (!·.isEmpty)

/-- Puts something at a path, with the directories on the way. -/
def write (tree : FileTree) (path : Path) (item : Item) : FileTree :=
  let withParents := (parents path.parts).foldl (·.setItem · .directory) tree
  withParents.setItem path.parts item

/-- Removes what is at a path, with everything below it. -/
def delete (tree : FileTree) (path : Path) : FileTree :=
  ⟨tree.items.filter fun (known, _) => !path.parts.isPrefixOf known⟩

end FileTree

end BundleLint
