import BundleLint.Report
import BundleLint.Text.Lowercase
import BundleLint.Text.Split
import BundleLint.Value.Text

/-!
# Settings

The settings of the program, and the reading of each one from a value. Words are read without
regard to case and to blanks around them.
-/

namespace BundleLint

/-- How reports are shown. -/
inductive OutputFormat where
  /-- As text. -/
  | text
  /-- As a JSON document. -/
  | json
  deriving DecidableEq, Repr

/-- Name of a format. -/
def OutputFormat.name : OutputFormat → String
  | .text => "text"
  | .json => "json"

/-- All formats. -/
def OutputFormat.all : List OutputFormat := [.text, .json]

/-- The settings. -/
structure Settings where
  /-- Mode of the runs. -/
  mode : CheckMode
  /-- How reports are shown. -/
  format : OutputFormat
  /-- Whether warnings count as failures. -/
  strict : Bool
  /-- Names of built-in checks that do not run. -/
  disabledChecks : List String
  /-- The file that the settings come from, if there is one. -/
  source : Option Path
  deriving DecidableEq, Repr

namespace Settings

/-- The settings without any file or variable. -/
def default : Settings :=
  { mode := .fast, format := .text, strict := false, disabledChecks := [], source := none }

/-- Name of the source. -/
def sourceText (settings : Settings) : String :=
  (settings.source.map Path.text).getD "default"

end Settings

/-- Why a value is not a setting. -/
inductive SettingFault where
  /-- There is no such mode. -/
  | mode (shown origin : String)
  /-- There is no such format. -/
  | format (shown origin : String)
  /-- The value is no truth value. -/
  | boolean (shown origin : String)
  /-- The value is no list of names. -/
  | checkList (origin : String)
  /-- The value has no text. -/
  | untold (fault : TextFault)
  deriving DecidableEq, Repr

/-- Wording of a value that is not a setting. -/
def SettingFault.message : SettingFault → String
  | .mode shown origin =>
    "Invalid mode '" ++ shown ++ "' in " ++ origin ++ " (must be one of: " ++
      ", ".intercalate (CheckMode.all.map (·.text)) ++ ")"
  | .format shown origin =>
    "Invalid format '" ++ shown ++ "' in " ++ origin ++ " (must be one of: " ++
      ", ".intercalate (OutputFormat.all.map (·.name)) ++ ")"
  | .boolean shown origin => "Invalid boolean '" ++ shown ++ "' in " ++ origin
  | .checkList origin =>
    "Invalid disabled_checks in " ++ origin ++ " (must be a list of check names)"
  | .untold fault => fault.message

namespace Settings

/-- A text without blanks around it, in lower case. -/
def word (text : List CodePoint) : String :=
  Text.shownString (Text.lower (Text.trim text))

/-- The text of a value. -/
def shownValue (value : Value) : Except SettingFault (List CodePoint) :=
  value.display.mapError .untold

/-- Reads a mode. -/
def readMode (value : Value) (origin : String) : Except SettingFault CheckMode := do
  let shown ← shownValue value
  match CheckMode.ofText? (word shown) with
  | some mode => return mode
  | none => throw (.mode (Text.shownString shown) origin)

/-- Reads a format. -/
def readFormat (value : Value) (origin : String) : Except SettingFault OutputFormat := do
  let shown ← shownValue value
  match OutputFormat.all.find? fun format => format.name == word shown with
  | some format => return format
  | none => throw (.format (Text.shownString shown) origin)

/-- Words that stand for true. -/
def trueWords : List String := ["1", "true", "yes", "on"]

/-- Words that stand for false. -/
def falseWords : List String := ["0", "false", "no", "off", ""]

/-- Reads a truth value. -/
def readBool (value : Value) (origin : String) : Except SettingFault Bool :=
  match value with
  | .bool b => .ok b
  | value => do
    let shown ← shownValue value
    if trueWords.contains (word shown) then return true
    else if falseWords.contains (word shown) then return false
    else throw (.boolean (Text.shownString shown) origin)

/-- Names without blanks around them; blank ones are left out. -/
def tidyNames (names : List (List CodePoint)) : List String :=
  ((names.map Text.trim).filter (!·.isEmpty)).map Text.shownString

/-- Reads a list of names, which may be given as a text with commas. -/
def readNames (value : Value) (origin : String) : Except SettingFault (List String) :=
  match value with
  | .null => .ok []
  | .text text => .ok (tidyNames (Text.splitAt (.char ',') text))
  | .list _ items =>
    match items.mapM Value.text? with
    | some names => .ok (tidyNames names)
    | none => .error (.checkList origin)
  | _ => .error (.checkList origin)

end Settings

end BundleLint
