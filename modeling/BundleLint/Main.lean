import BundleLint.CommandLine
import Std.Time

/-!
# The program

Reads the files, the variables and the clock, and leaves the rest to the command line.
-/

namespace BundleLint

/-- What the system calls some errors. -/
def errorDescriptions : List (Nat × String) :=
  [(1, "Operation not permitted"), (2, "No such file or directory"), (5, "Input/output error"),
    (9, "Bad file descriptor"), (13, "Permission denied"), (20, "Not a directory"),
    (21, "Is a directory"), (36, "File name too long"),
    (40, "Too many levels of symbolic links")]

/-- Number of an error of input and output, as it is reported, with a text. -/
def errorCode : IO.Error → UInt32 × String
  | .otherError code text | .resourceBusy code text | .resourceVanished code text
  | .unsupportedOperation code text | .hardwareFault code text
  | .unsatisfiedConstraints code text | .illegalOperation code text | .protocolError code text
  | .timeExpired code text => (code, text)
  | .alreadyExists _ code text | .invalidArgument _ code text | .permissionDenied _ code text
  | .resourceExhausted _ code text | .inappropriateType _ code text
  | .noSuchThing _ code text => (code, text)
  | .interrupted _ code text | .noFileOrDirectory _ code text => (code, text)
  | .unexpectedEof => (5, "")
  | .userError text => (5, text)

/-- The error of the system behind an error of input and output. Its number may be reported with its
sign changed. -/
def systemError (path : Option Path) (error : IO.Error) : SystemError :=
  let (code, text) := errorCode error
  let number := if code < 0x80000000 then code.toNat else (0 - code).toNat
  let known := errorDescriptions.find? fun (known, _) => known == number
  { number, description := (known.map (·.2)).getD text, path }

/-- Runs an action on the file system. -/
def attempt {Result : Type} (path : Option Path) (action : IO Result) :
    IO (Except SystemError Result) := do
  try
    return .ok (← action)
  catch error => return .error (systemError path error)

/-- What the file system says of a path. A path that has no real place fails to be looked up for the
reason for which it cannot be read. -/
def readStatus (path : Path) : IO Status := do
  if path.text.toList.contains '\x00' then return .absent
  let content ← attempt (some path) (IO.FS.readBinFile path.text)
  let place ← attempt (some path) (IO.FS.realPath path.text)
  let lookup : Except SystemError Unit :=
    match place, content with
    | .error _, .error error => .error error
    | _, _ => .ok ()
  return .of lookup (content.map (·.toList))

/-- Reads several paths. -/
def readFiles (paths : List Path) : IO Files := do
  let known ← paths.mapM fun path => return (path, ← readStatus path)
  return fun path => ((known.find? fun entry => entry.1 == path).map (·.2)).getD .absent

/-- Files without a working directory, where a settings file cannot be looked up. -/
def withoutDirectory (files : Files) (settingsFile : Path) (error : SystemError) : Files :=
  fun path => if path == settingsFile then .unseen error (.error error) else files path

/-- Reads variables. -/
def readVariables (names : List String) : IO (String → Option String) := do
  let known ← names.mapM fun name => return (name, ← IO.getEnv name)
  return fun name => (known.find? fun entry => entry.1 == name).bind (·.2)

/-- The current time in seconds. -/
def currentTime : IO String := do
  let moment ← Std.Time.Timestamp.now
  let time := Std.Time.DateTime.ofTimestamp moment Std.Time.TimeZone.ZoneRules.UTC
  let digits := fun (width : Nat) (n : Int) => String.ofList (Text.decimal width n.toNat)
  return digits 4 time.year.toInt ++ "-" ++ digits 2 time.month.val ++ "-" ++
    digits 2 time.day.val ++ "T" ++ digits 2 time.hour.val ++ ":" ++ digits 2 time.minute.val ++
      ":" ++ digits 2 time.second.val ++ "+00:00"

/-- Wording of a fault that the program does not handle. -/
def crashMessage : CommandLine.Crash → String
  | .settings (.reader _) => "the settings file cannot be read"
  | .settings fault => fault.message
  | .run (.reader _) => "the front matter cannot be read"
  | .run (.untold fault) => fault.message
  | .nameless => "a check to be left out has no name"

/-- Does what the words of a command line ask for and gives the exit code. -/
def runProgram (words : List String) : IO UInt32 := do
  let found ← attempt none IO.currentDir
  let directory :=
    ((found.map fun place => Path.ofText (toString place)).toOption).getD (.ofText "")
  let settingsFile := directory.join (.ofText settingsFileName)
  let environment ←
    readVariables [fileVariable, modeVariable, formatVariable, strictVariable, disabledVariable]
  let settingsPaths := settingsFile :: ((environment fileVariable).map Path.ofText).toList
  let known ← readFiles (settingsPaths ++ words.map Path.ofText)
  let files :=
    match found with
    | .ok _ => known
    | .error error => withoutDirectory known settingsFile error
  let world : World := { files, workingDirectory := directory, environment }
  match CommandLine.execute world (← currentTime) id words with
  | .error crash =>
    IO.eprintln (CommandLine.programName ++ ": " ++ crashMessage crash)
    return 1
  | .ok completion =>
    for warning in completion.warnings do
      IO.eprintln ("WARNING: " ++ warning)
    IO.print completion.output
    IO.eprint completion.errors
    return completion.exitCode.toUInt32

end BundleLint

/-- The program. -/
def main (words : List String) : IO UInt32 :=
  BundleLint.runProgram words
