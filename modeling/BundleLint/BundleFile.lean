import BundleLint.FileSystem
import BundleLint.Text.Line
import BundleLint.Text.Utf8

/-!
# Bundle files

What comes of opening a bundle file: there is none, it cannot be read, or it has a text. The line
ends of the text are made the same.
-/

namespace BundleLint

/-- Why a file cannot be read. -/
inductive ReadFault where
  /-- The system refuses. -/
  | system (error : SystemError)
  /-- The bytes are not UTF-8. -/
  | undecodable (malformed : Text.Utf8.Malformed)
  deriving DecidableEq, Repr

/-- Wording of a file that cannot be read. -/
def ReadFault.message : ReadFault → String
  | .system error => error.message
  | .undecodable malformed => malformed.message

/-- What comes of opening a file. -/
inductive Opened where
  /-- There is no file. -/
  | absent
  /-- The file cannot be read. -/
  | unreadable (fault : ReadFault)
  /-- The text of the file, with its line ends made the same. -/
  | text (content : List Char)
  deriving DecidableEq, Repr

/-- Opens a file. A path that cannot be looked up is left to the reading to tell of. -/
def openText (files : Files) (path : Path) : Opened :=
  match (files path).content? with
  | none => .absent
  | some (.error error) => .unreadable (.system error)
  | some (.ok bytes) =>
    match Text.Utf8.decode bytes with
    | .ok content => .text (Text.unifyLineFeeds content)
    | .error malformed => .unreadable (.undecodable malformed)

end BundleLint
