import BundleLint.Report.Json

/-!
# Usage

The texts about the program itself: how it is called, what its options do, and its version.
-/

namespace BundleLint.CommandLine

/-- Name of the program. -/
def programName : String := "bundle-health"

/-- How the program is called. -/
def usage : String :=
  "usage: bundle-health [-h] [--fast | --comprehensive] [--json] [--strict]\n" ++
  "                     [--skip-check NAME] [--debug] [--version]\n" ++
  "                     paths [paths ...]\n"

/-- What the options do. -/
def optionHelp : String :=
  "options:\n" ++
  "  -h, --help         show this help message and exit\n" ++
  "  --fast             Run local structural checks only (default)\n" ++
  "  --comprehensive    Also run network-dependent checks\n" ++
  "  --json             Output machine-readable JSON to stdout\n" ++
  "  --strict           Treat warnings as failures for the exit code\n" ++
  "  --skip-check NAME  Skip a default check by name (repeatable)\n" ++
  "  --debug            Enable debug logging with per-check timing\n" ++
  "  --version          show program's version number and exit\n"

/-- What the exit codes mean, and examples. -/
def closingHelp : String :=
  "Exit Codes:\n" ++
  "  0 - All bundles passed\n" ++
  "  1 - Validation failed (error-level issues, or warnings with --strict)\n" ++
  "  2 - Invalid invocation or configuration\n" ++
  "\n" ++
  "Examples:\n" ++
  "  bundle-health bundles/foundation.md\n" ++
  "  bundle-health --comprehensive bundles/*.md\n" ++
  "  bundle-health --json bundles/foundation.md\n" ++
  "        \n"

/-- The whole help. -/
def help : String :=
  usage ++ "\n" ++
  "Validate bundle definition files (YAML front matter + markdown body)\n" ++
  "\n" ++
  "positional arguments:\n" ++
  "  paths              Bundle files to validate\n" ++
  "\n" ++ optionHelp ++ "\n" ++ closingHelp

/-- The version of the program. -/
def versionText : String :=
  programName ++ " " ++ programVersion ++ "\n"

end BundleLint.CommandLine
