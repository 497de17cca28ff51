import BundleLint.Path
import BundleLint.Text.Quoted

/-!
# File systems

What a file system says of a path. A path is looked up before it is read, and each of the two can
fail on its own. Some failures to look a path up count as absence.
-/

namespace BundleLint

/-- An error of the system. -/
structure SystemError where
  /-- Number. -/
  number : Nat
  /-- What the system calls it. -/
  description : String
  /-- The path that it names, if it names one. -/
  path : Option Path
  deriving DecidableEq, Repr

namespace SystemError

/-- Wording of an error. -/
def message (error : SystemError) : String :=
  let place :=
    match error.path with
    | none => ""
    | some path => ": " ++ Text.quoteString path.text
  "[Errno " ++ toString error.number ++ "] " ++ error.description ++ place

/-- A path is too long. -/
def tooLong (path : Path) : SystemError :=
  { number := 36, description := "File name too long", path := some path }

/-- A directory is read as a file. -/
def isDirectory (path : Path) : SystemError :=
  { number := 21, description := "Is a directory", path := some path }

/-- Numbers of the errors that count as absence: no such file, a bad descriptor, a component that is
no directory, and too many links. -/
def absenceNumbers : List Nat := [2, 9, 20, 40]

/-- Whether a path that cannot be looked up for this error counts as absent. -/
def isAbsence (error : SystemError) : Bool :=
  absenceNumbers.contains error.number

end SystemError

/-- What a file system says of a path. -/
inductive Status where
  /-- There is nothing. -/
  | absent
  /-- There is a file. -/
  | file (bytes : List UInt8)
  /-- There is something that cannot be read. -/
  | unreadable (error : SystemError)
  /-- The path cannot be looked up; reading it may fail as well or not. -/
  | unseen (error : SystemError) (content : Except SystemError (List UInt8))

namespace Status

/-- What comes of looking a path up and of reading it. -/
def of (lookup : Except SystemError Unit) (content : Except SystemError (List UInt8)) : Status :=
  match lookup, content with
  | .ok (), .ok bytes => .file bytes
  | .ok (), .error error => .unreadable error
  | .error error, content => if error.isAbsence then .absent else .unseen error content

/-- What reading gives, if there is something to be read or the path cannot be looked up. -/
def content? : Status → Option (Except SystemError (List UInt8))
  | .absent => none
  | .file bytes => some (.ok bytes)
  | .unreadable error => some (.error error)
  | .unseen _ content => some content

end Status

/-- A file system. -/
abbrev Files := Path → Status

end BundleLint
