import BundleLint.Report
import BundleLint.Text.Digit
import BundleLint.Text.Quoted

/-!
# Arguments

Reading the words of a command line. Words are first told apart on their own: options, of which
the long ones may be shortened while that is unambiguous, and paths. They are then taken in order.
All paths must stand together; what is left over is refused at the end.
-/

namespace BundleLint.CommandLine

/-- An option of the program. -/
inductive Flag where
  /-- Shows the help. -/
  | help
  /-- Runs the fast checks only. -/
  | fast
  /-- Runs all checks. -/
  | comprehensive
  /-- Shows reports as a JSON document. -/
  | json
  /-- Counts warnings as failures. -/
  | strict
  /-- Leaves a built-in check out. -/
  | skipCheck
  /-- Shows more of what is done. -/
  | debug
  /-- Shows the version. -/
  | version
  deriving DecidableEq, Repr

/-- Spellings of the options. -/
def spellings : List (String × Flag) :=
  [("-h", .help), ("--help", .help), ("--fast", .fast), ("--comprehensive", .comprehensive),
    ("--json", .json), ("--strict", .strict), ("--skip-check", .skipCheck), ("--debug", .debug),
    ("--version", .version)]

/-- All spellings of an option. -/
def Flag.name (flag : Flag) : String :=
  "/".intercalate ((spellings.filter fun (_, known) => known == flag).map (·.1))

/-- Why a command line cannot be read. -/
inductive ArgumentFault where
  /-- A shortened option may be one of several. -/
  | ambiguous (word : String) (candidates : List String)
  /-- An option without an argument has one attached. -/
  | ignoredArgument (flag : Flag) (argument : String)
  /-- An option lacks its argument. -/
  | missingArgument (flag : Flag)
  /-- Two options exclude each other. -/
  | conflict (flag other : Flag)
  /-- There is no path. -/
  | noPaths
  /-- These words are neither options nor paths. -/
  | unrecognized (words : List String)
  deriving DecidableEq, Repr

/-- Wording of a command line that cannot be read. -/
def ArgumentFault.message : ArgumentFault → String
  | .ambiguous word candidates =>
    "ambiguous option: " ++ word ++ " could match " ++ ", ".intercalate candidates
  | .ignoredArgument flag argument =>
    "argument " ++ flag.name ++ ": ignored explicit argument " ++ Text.quoteString argument
  | .missingArgument flag => "argument " ++ flag.name ++ ": expected one argument"
  | .conflict flag other =>
    "argument " ++ flag.name ++ ": not allowed with argument " ++ other.name
  | .noPaths => "the following arguments are required: paths"
  | .unrecognized words => "unrecognized arguments: " ++ " ".intercalate words

/-- A word on its own. -/
inductive Word where
  /-- A word that is no option. -/
  | plain (text : String)
  /-- The mark after which no word is an option. -/
  | separator
  /-- An option, whether it is spelled with one hyphen, and the text attached to it. -/
  | option (flag : Flag) ( isShort : Bool) (attached : Option String)
  /-- A word that looks like an option. -/
  | unknown (text : String)
  deriving DecidableEq, Repr

/-- The mark after which no word is an option. -/
def separatorText : String := "--"

/-- A word as it was written, unless it is a known option. -/
def Word.text : Word → String
  | .plain text => text
  | .separator => separatorText
  | .option .. => ""
  | .unknown text => text

/-- Splits a word at its first equals sign. -/
def splitEquals (word : List Char) : List Char × Option (List Char) :=
  match word.dropWhile (· != '=') with
  | [] => (word, none)
  | _ :: attached => (word.takeWhile (· != '='), some attached)

/-- Whether a word is a number below zero, which is no option. -/
def isNegativeNumber : List Char → Bool
  | '-' :: rest =>
    let isDigit := fun c => (Text.decimalValue? c).isSome
    let shown := if rest.getLast? == some '\n' then rest.dropLast else rest
    let afterWhole := shown.dropWhile isDigit
    match afterWhole with
    | [] => !shown.isEmpty
    | '.' :: fraction => !fraction.isEmpty && fraction.all isDigit
    | _ => false
  | _ => false

/-- The option with exactly this spelling. -/
def exactOption? (spelling : List Char) (attached : Option (List Char)) : Option Word :=
  (spellings.find? fun (known, _) => known.toList == spelling).map fun (known, flag) =>
    .option flag (known.length == 2) (attached.map String.ofList)

/-- The spellings that a word may be short for, each with the text attached to it. -/
def candidates (word : List Char) : List (String × Flag × Option (List Char)) :=
  match word with
  | '-' :: '-' :: _ =>
    let (spelling, attached) := splitEquals word
    (spellings.filter fun (known, _) => spelling.isPrefixOf known.toList).map
      fun (known, flag) => (known, flag, attached)
  | _ =>
    spellings.filterMap fun (known, flag) =>
      if known.toList == word.take 2 then some (known, flag, some (word.drop 2))
      else if word.isPrefixOf known.toList then some (known, flag, none)
      else none

/-- Tells a word before the separator apart. -/
def classifyWord (text : String) : Except ArgumentFault Word :=
  let word := text.toList
  let (spelling, attached) := splitEquals word
  if word.head? != some '-' || word.length == 1 then .ok (.plain text)
  else
    match (exactOption? word none).or (attached.bind fun _ => exactOption? spelling attached) with
    | some option => .ok option
    | none =>
      match candidates word with
      | [(known, flag, attached)] =>
        .ok (.option flag (known.length == 2) (attached.map String.ofList))
      | [] =>
        if isNegativeNumber word || word.contains ' ' then .ok (.plain text)
        else .ok (.unknown text)
      | several => .error (.ambiguous text (several.map (·.1)))

/-- Tells words apart. -/
def classify : List String → Except ArgumentFault (List Word)
  | [] => .ok []
  | text :: texts =>
    if text == separatorText then .ok (.separator :: texts.map .plain)
    else do
      let word ← classifyWord text
      return word :: (← classify texts)

/-- What a command line asks for. -/
structure Arguments where
  /-- The files, as they were written. -/
  paths : List String
  /-- The mode, if it is given. -/
  mode : Option CheckMode
  /-- Whether a JSON document is asked for. -/
  json : Bool
  /-- Whether warnings count as failures. -/
  strict : Bool
  /-- Names of checks to be left out. -/
  skipped : List String
  /-- Whether a check to be left out has no name, because its name was dropped as a separator. -/
  hasNameless : Bool
  /-- Whether more is to be shown. -/
  debug : Bool
  deriving DecidableEq, Repr

/-- What a command line comes to. -/
inductive Request where
  /-- The help. -/
  | help
  /-- The version. -/
  | version
  /-- A run. -/
  | run (arguments : Arguments)
  deriving DecidableEq, Repr

/-- How far the words have been taken. -/
structure Progress where
  /-- The arguments so far. -/
  arguments : Arguments
  /-- Whether the paths have been taken. -/
  hasPaths : Bool
  /-- Words other than options since the last option. -/
  pending : List Word
  /-- Words that are left over. -/
  leftOver : List String

namespace Progress

/-- Nothing has been taken. -/
def initial : Progress :=
  { arguments :=
      { paths := [], mode := none, json := false, strict := false, skipped := []
        hasNameless := false, debug := false }
    hasPaths := false, pending := [], leftOver := [] }

/-- Paths among words. -/
def pathsOf (words : List Word) : List String :=
  (words.filter (· != .separator)).map (·.text)

/-- Takes the words since the last option: as the paths, unless there are paths already. -/
def settle (progress : Progress) : Progress :=
  let paths := pathsOf progress.pending
  if progress.hasPaths || paths.isEmpty then
    { progress with
      pending := [], leftOver := progress.leftOver ++ progress.pending.map (·.text) }
  else
    { progress with
      pending := [], hasPaths := true, arguments := { progress.arguments with paths } }

/-- Sets the mode, unless the other one is set. -/
def setMode (progress : Progress) (flag other : Flag) (mode : CheckMode) :
    Except ArgumentFault Progress :=
  let arguments := progress.arguments
  match arguments.mode with
  | none => .ok { progress with arguments := { arguments with mode := some mode } }
  | some known => if known == mode then .ok progress else .error (.conflict flag other)

/-- Adds the name of a check to be left out. A separator is dropped wherever it stands. -/
def skip (progress : Progress) (name : String) : Progress :=
  let arguments := progress.arguments
  let arguments :=
    if name == separatorText then { arguments with hasNameless := true }
    else { arguments with skipped := arguments.skipped ++ [name] }
  { progress with arguments }

/-- What an option without an argument leads to. -/
def takeFlag (progress : Progress) : Flag → Except ArgumentFault (Progress ⊕ Request)
  | .help => .ok (.inr .help)
  | .version => .ok (.inr .version)
  | .fast => (progress.setMode .fast .comprehensive .fast).map .inl
  | .comprehensive => (progress.setMode .comprehensive .fast .comprehensive).map .inl
  | .json => .ok (.inl { progress with arguments := { progress.arguments with json := true } })
  | .strict => .ok (.inl { progress with arguments := { progress.arguments with strict := true } })
  | .debug => .ok (.inl { progress with arguments := { progress.arguments with debug := true } })
  | .skipCheck => .error (.missingArgument .skipCheck)

/-- Text attached to an option without an argument. After the short spelling of the help, further
letters of that spelling do no harm. -/
def checkAttached (flag : Flag) ( isShort : Bool) (attached : String) :
    Except ArgumentFault Unit :=
  let ignored := if isShort then attached.toList.dropWhile (· == 'h') else attached.toList
  if ignored.isEmpty && isShort && !attached.isEmpty then .ok ()
  else .error (.ignoredArgument flag (String.ofList ignored))

/-- What is asked for once all words are taken. -/
def finish (progress : Progress) : Except ArgumentFault Request :=
  let settled := progress.settle
  if !settled.hasPaths then .error .noPaths
  else if !settled.leftOver.isEmpty then .error (.unrecognized settled.leftOver)
  else .ok (.run settled.arguments)

/-- Takes words in order. -/
def take (progress : Progress) : List Word → Except ArgumentFault Request
  | [] => progress.finish
  | .option .skipCheck _ (some name) :: words => (progress.settle.skip name).take words
  | .option .skipCheck _ none :: .plain name :: words => (progress.settle.skip name).take words
  | .option flag isShort attached :: words => do
    attached.forM (checkAttached flag isShort)
    match ← progress.settle.takeFlag flag with
    | .inl progress => progress.take words
    | .inr request => return request
  | .unknown text :: words =>
    let settled := progress.settle
    { settled with leftOver := settled.leftOver ++ [text] }.take words
  | word :: words => { progress with pending := progress.pending ++ [word] }.take words

end Progress

/-- Reads a command line. -/
def readArguments (words : List String) : Except ArgumentFault Request := do
  Progress.initial.take (← classify words)

end BundleLint.CommandLine
