import BundleLint.Yaml.Scan.Tag

/-!
# Scanning of directives

A directive is a line that starts with a percent sign. The version and the tag handles are read;
other directives are passed over.
-/

namespace BundleLint.Yaml.Scan

open Read

/-- Refuses a directive here, because another character was needed. -/
def refuseDirective {α : Type} (began : Nat) (expected : String) (found : Char) : Read α :=
  refuse .scanning .directive began (.expectedCharacter expected found)

/-- The name of a directive. -/
def directiveName (began : Nat) : Read (List Char) := do
  let size ← count 0 isWordChar
  let text ← take size
  let c ← peek 0
  if size == 0 || !isSpaceOrEnd c then
    refuseDirective began "alphabetic or numeric character" c
  return text

private def isVersionDigit (c : Char) : Bool :=
  '0' ≤ c && c ≤ '9'

/-- One of the two numbers of a version. -/
def versionNumber (began : Nat) : Read Int := do
  let c ← peek 0
  if !isVersionDigit c then refuseDirective began "a digit" c
  let size ← count 0 isVersionDigit
  match Number.readInteger 10 (Text.points (← upcoming size)) with
  | .ok number =>
    advance size
    return number
  | .error fault => throw (.value (.integer fault))

/-- The two numbers of a version. -/
def version (began : Nat) : Read Directive := do
  skipSpaces
  let major ← versionNumber began
  let c ← peek 0
  if c != '.' then refuseDirective began "a digit or '.'" c
  advance 1
  let minor ← versionNumber began
  let c ← peek 0
  if !isSpaceOrEnd c then refuseDirective began "a digit or ' '" c
  return .version major minor

/-- A tag handle and what it stands for. -/
def tagHandle (began : Nat) : Read Directive := do
  skipSpaces
  let name ← handle .directive began
  let c ← peek 0
  if c != ' ' then refuseDirective began "' '" c
  skipSpaces
  let leading ← address .directive began
  let c ← peek 0
  if !isSpaceOrEnd c then refuseDirective began "' '" c
  return .tagHandle name leading

/-- A directive with the place where it stops, which is before any comment. -/
def directive : Read (Directive × Nat) := do
  let began ← offset
  advance 1
  let name ← directiveName began
  let directive ←
    if name == "YAML".toList then version began
    else if name == "TAG".toList then tagHandle began
    else pure .unknown
  let stop ← offset
  if directive == .unknown then skipLine
  finishLine .directive began
  return (directive, stop)

end BundleLint.Yaml.Scan
