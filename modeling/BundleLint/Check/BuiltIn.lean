import BundleLint.Check
import BundleLint.Report
import BundleLint.Text.Blank
import BundleLint.Value.Text

/-!
# The built-in checks

The checks of the structure of a bundle: that its front matter was read, that it has a name, and
that its lists of modules are lists of mappings with a module. Agents are exempt from the last two.
-/

namespace BundleLint

/-- Key that makes a file an agent. -/
def agentKey : String := "meta"

/-- What a file with these settings defines. -/
def classify (config : Mapping) : BundleKind :=
  if config.contains agentKey then .agent else .bundle

/-- The text of a value without blanks at its ends, if there is any. -/
def trimmedText? (value : Value) : Option (List CodePoint) :=
  match value.text? with
  | none => none
  | some text =>
    let trimmed := Text.trim text
    if trimmed.isEmpty then none else some trimmed

namespace BuiltIn

/-- An error in a file without a line. -/
def errorIn (path : Path) (code message : String) (hint : List CodePoint) : Issue :=
  { severity := .error, code, message, filePath := some path.text, line := none
    fixHint := some hint }

/-- Nothing is left to check once the front matter was read. -/
def frontMatterSyntax : Check := fun _ => .issues []

/-- Issues about the name of a bundle. -/
def nameIssues (config : Mapping) (path : Path) : List Issue :=
  match config.get? "bundle" with
  | none =>
    [errorIn path "MISSING_BUNDLE_SECTION" "missing required 'bundle' section"
      "Add a bundle section to the front matter:\n  bundle:\n    name: my-bundle"]
  | some value =>
    match value.mapping? with
    | none =>
      [errorIn path "INVALID_BUNDLE_SECTION"
        ("'bundle' must be a mapping (got " ++ value.authorName ++ ")")
        "Change 'bundle' to a mapping with a name:\n  bundle:\n    name: my-bundle"]
    | some bundle =>
      if ((bundle.get? "name").bind trimmedText?).isSome then []
      else
        [errorIn path "MISSING_BUNDLE_NAME"
          "missing required field 'bundle.name' (must be a non-empty string)"
          "Add the 'name' field under the bundle section: `name: my-bundle`"]

/-- A bundle has a name that is not blank. -/
def requiredFields : Check := fun bundle =>
  match classify bundle.config with
  | .agent => .issues []
  | .bundle => .issues (nameIssues bundle.config bundle.path)

/-- The sections that list modules, in the order of reporting. -/
def moduleSections : List String := ["providers", "tools", "hooks"]

/-- Whether a value stands for itself in the hint about an entry. -/
def isShownInHint : Value → Bool
  | .text _ | .int _ | .float _ | .bool _ => true
  | _ => false

/-- Hint for an entry that is not a mapping; nothing if the entry cannot be written. -/
def entryHint? (sectionName : String) (entry : Value) : Option (List CodePoint) :=
  if isShownInHint entry then
    entry.display.toOption.map fun shown =>
      "Change `- " ++ shown ++ "` to `- module: " ++ shown ++ "` under '" ++ sectionName ++ "'"
  else
    some
      ("Replace the entry with a mapping: `- module: <module-name>` under '" ++ sectionName ++ "'")

/-- Where an entry stands. -/
def entryLocation (sectionName : String) (index : Nat) : String :=
  sectionName ++ "[" ++ toString index ++ "]"

/-- Issues about an entry; nothing if its hint cannot be written. -/
def entryIssues? (path : Path) (sectionName : String) (index : Nat) (entry : Value) :
    Option (List Issue) :=
  let location := entryLocation sectionName index
  match entry.mapping? with
  | none =>
    (entryHint? sectionName entry).map fun hint =>
      [errorIn path "INVALID_MODULE_FORMAT"
        (location ++ " must be a mapping with a 'module' key (got " ++ entry.authorName ++ ")")
        hint]
  | some entry =>
    if entry.contains "module" then some []
    else
      some
        [errorIn path "MISSING_MODULE_KEY" (location ++ " is missing required key 'module'")
          ("Add `module: <module-name>` to " ++ location)]

/-- Issues about the entries from an index on. -/
def entriesIssues? (path : Path) (sectionName : String) (index : Nat) :
    List Value → Option (List Issue)
  | [] => some []
  | entry :: entries => do
    let issues ← entryIssues? path sectionName index entry
    let others ← entriesIssues? path sectionName (index + 1) entries
    return issues ++ others

/-- Issues about a section. -/
def sectionIssues? (config : Mapping) (path : Path) (sectionName : String) : Option (List Issue) :=
  match config.get? sectionName with
  | none => some []
  | some value =>
    match value.listItems? with
    | some entries => entriesIssues? path sectionName 0 entries
    | none =>
      some
        [errorIn path "INVALID_MODULE_LIST"
          ("'" ++ sectionName ++ "' must be a list (got " ++ value.authorName ++ ")")
          ("Change '" ++ sectionName ++ "' to a list of entries:\n  " ++ sectionName ++
            ":\n    - module: <module-name>")]

/-- Issues about several sections. -/
def sectionsIssues? (config : Mapping) (path : Path) : List String → Option (List Issue)
  | [] => some []
  | sectionName :: sections => do
    let issues ← sectionIssues? config path sectionName
    let others ← sectionsIssues? config path sections
    return issues ++ others

/-- The exception when a value that a hint shows cannot be written. -/
def hintException : Exception :=
  { kind := "ValueError", text := .ok Number.unwritableMessage }

/-- The lists of modules are lists of mappings with a module. -/
def moduleLists : Check := fun bundle =>
  match classify bundle.config with
  | .agent => .issues []
  | .bundle =>
    match sectionsIssues? bundle.config bundle.path moduleSections with
    | some issues => .issues issues
    | none => .raised hintException

end BuiltIn

/-- The built-in checks. -/
inductive BuiltInCheck where
  /-- The front matter was read. -/
  | frontMatterSyntax
  /-- The bundle has a name. -/
  | requiredFields
  /-- The lists of modules have the right form. -/
  | moduleLists
  deriving DecidableEq, Repr

namespace BuiltInCheck

/-- The built-in checks in the order in which they run. -/
def all : List BuiltInCheck := [.frontMatterSyntax, .requiredFields, .moduleLists]

/-- Name of a check. -/
def name : BuiltInCheck → String
  | .frontMatterSyntax => "frontmatter_syntax"
  | .requiredFields => "required_fields"
  | .moduleLists => "module_list_format"

/-- The check with a name. -/
def ofName? (name : String) : Option BuiltInCheck :=
  all.find? fun check => check.name == name

/-- The check itself. -/
def run : BuiltInCheck → Check
  | .frontMatterSyntax => BuiltIn.frontMatterSyntax
  | .requiredFields => BuiltIn.requiredFields
  | .moduleLists => BuiltIn.moduleLists

/-- The check under its name. -/
def named (check : BuiltInCheck) : NamedCheck :=
  { name := check.name, run := check.run }

end BuiltInCheck

end BundleLint
