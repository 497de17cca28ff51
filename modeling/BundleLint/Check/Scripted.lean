import BundleLint.Check.BuiltIn

/-!
# Checks described by data

Checks that do what a description says: give issues, break off with an exception, give something
else than a list, or tell what they were given.
-/

namespace BundleLint

/-- Kinds of system errors by their numbers. -/
def systemErrorKinds : List (Int × String) :=
  [(1, "PermissionError"), (2, "FileNotFoundError"), (3, "ProcessLookupError"),
    (4, "InterruptedError"), (10, "ChildProcessError"), (11, "BlockingIOError"),
    (13, "PermissionError"), (17, "FileExistsError"), (20, "NotADirectoryError"),
    (21, "IsADirectoryError"), (32, "BrokenPipeError"), (103, "ConnectionAbortedError"),
    (104, "ConnectionResetError"), (108, "BrokenPipeError"), (110, "TimeoutError"),
    (111, "ConnectionRefusedError"), (114, "BlockingIOError"), (115, "BlockingIOError")]

/-- Kind of a system error with a number. -/
def systemErrorKind (number : Value) : String :=
  let known := number.integer?.bind fun n => systemErrorKinds.find? fun (known, _) => known == n
  (known.map (·.2)).getD "OSError"

/-- The files that a system error names, among its arguments after the description. -/
def systemErrorFiles : List Value → List Value
  | [] => []
  | .null :: _ => []
  | [file, _, .null] => [file]
  | [file, _, other] => [file, other]
  | file :: _ => [file]

/-- Text of a system error from its number, its description and the files it names. -/
def systemErrorText (number description : Value) (files : List Value) :
    Except TextFault String := do
  let numberText ← number.display
  let descriptionText ← description.display
  let fileTexts ← files.mapM Value.literal
  let tail := if fileTexts.isEmpty then "" else ": " ++ " -> ".intercalate fileTexts
  return "[Errno " ++ Text.shownString numberText ++ "] " ++
    Text.shownString descriptionText ++ tail

/-- Greatest number of arguments of a system error that has a number. -/
def systemErrorArity : Nat := 5

/-- An exception of a kind with arguments. -/
def Exception.ofArguments (kind : String) (arguments : List Value) : Exception :=
  match kind, arguments with
  | "KeyError", [argument] => { kind, text := argument.literal }
  | "OSError", number :: description :: rest =>
    if systemErrorArity < arguments.length then { kind, text := Value.argumentsText arguments }
    else
      { kind := systemErrorKind number
        text := systemErrorText number description (systemErrorFiles rest) }
  | kind, arguments => { kind, text := Value.argumentsText arguments }

/-- The exception of parts that do not make an issue. -/
def IssueFault.exception (fault : IssueFault) : Exception :=
  let kind :=
    match fault with
    | .notSeverity _ => "TypeError"
    | _ => "ValueError"
  { kind, text := .ok fault.message }

/-- Description of a check. -/
inductive Script where
  /-- Makes issues from these parts. -/
  | issues (drafts : List IssueDraft)
  /-- Breaks off with an exception. -/
  | raises (kind : String) (arguments : List Value)
  /-- Gives something else than a list, of the named type. -/
  | returns (typeName : String)
  /-- Gives an issue that tells what the check was given. -/
  | echo
  /-- Does what a built-in check does. -/
  | builtIn (check : BuiltInCheck)

/-- The issue that tells what a check was given. -/
def echoIssue (bundle : Bundle) : Issue :=
  let path := bundle.path.text
  { severity := .info
    code := "ECHO"
    message :=
      "path=" ++ path ++ " keys=" ++ toString bundle.config.size ++ " body=" ++
        String.ofList bundle.body
    filePath := some path
    line := none
    fixHint := none }

/-- The check that does what a description says. -/
def Script.check : Script → Check
  | .issues drafts => fun _ =>
    match drafts.mapM IssueDraft.issue with
    | .ok made => .issues made
    | .error fault => .raised fault.exception
  | .raises kind arguments => fun _ => .raised (.ofArguments kind arguments)
  | .returns typeName => fun _ => .notList typeName
  | .echo => fun bundle => .issues [echoIssue bundle]
  | .builtIn check => check.run

end BundleLint
