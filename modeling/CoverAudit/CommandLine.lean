import CoverAudit.CommandLine.Options
import CoverAudit.Settings.File

/-!
# The command line

What a command line asks for. Options of the whole program stand before the command; a request for
help, or for the version, counts before everything else that was understood.
-/

namespace CoverAudit.CommandLine

/-- The options of the whole program. -/
structure Options where
  /-- The settings file that was asked for. -/
  config : Option String := none
  /-- Source roots that replace those of the settings. -/
  sources : List String := []
  /-- Where the report goes. -/
  output : Option String := none
  pretty : Bool := false
  verbose : Bool := false
  deriving DecidableEq, Repr

/-- What help is about. -/
inductive Topic where
  | program
  | init
  | check
  deriving DecidableEq, Repr

/-- What a command line asks for. -/
inductive Request where
  | help (topic : Topic)
  | version
  /-- A settings file to start from. -/
  | init (path : String)
  /-- An audit of the tests below some paths. -/
  | check (options : Options) (paths : List String)
  deriving DecidableEq, Repr

/-- The options of the whole program. -/
def programGrammar : OptionGrammar where
  valued := ["--config", "--source", "--output"]
  flags := ["--pretty", "--verbose", "--version", "--help"]
  mixed := false

/-- The options of the command `init`. -/
def initGrammar : OptionGrammar where
  valued := ["--output"]
  flags := ["--help"]
  mixed := true

/-- The options of the command `check`. -/
def checkGrammar : OptionGrammar where
  valued := []
  flags := ["--help"]
  mixed := true

/-- The options that answer at once. -/
def immediate? (topic : Topic) (options : List GivenOption) : Option Request :=
  options.findSome? fun option =>
    if option.name = "--help" then some (.help topic)
    else if option.name = "--version" then some .version
    else none

/-- The options of the whole program among those given. -/
def Options.ofGiven (options : List GivenOption) : Options where
  config := GivenOption.valueOf? "--config" options
  sources := GivenOption.valuesOf "--source" options
  output := GivenOption.valueOf? "--output" options
  pretty := GivenOption.isGiven "--pretty" options
  verbose := GivenOption.isGiven "--verbose" options

/-- What the arguments of `init` ask for. -/
def parseInit (arguments : List String) : Except UsageError Request := do
  let (options, rest) ← initGrammar.parse arguments
  match immediate? .init options, rest with
  | some request, _ => return request
  | none, [] => return .init ((GivenOption.valueOf? "--output" options).getD Settings.defaultPath)
  | none, rest => throw (.unexpectedArguments rest)

/-- What the arguments of `check` ask for. -/
def parseCheck (program : Options) (arguments : List String) : Except UsageError Request := do
  let (options, paths) ← checkGrammar.parse arguments
  match immediate? .check options with
  | some request => return request
  | none => return .check program paths

/-- What a command line asks for. An option in the place of the command may still ask for help. -/
def parse (arguments : List String) : Except UsageError Request := do
  if arguments.isEmpty then throw .noArguments
  let (options, rest) ← programGrammar.parse arguments
  match immediate? .program options, rest with
  | some request, _ => return request
  | none, [] => throw .missingCommand
  | none, "init" :: rest => parseInit rest
  | none, "check" :: rest => parseCheck (Options.ofGiven options) rest
  | none, name :: rest =>
    let (options, _) ← programGrammar.parse (name :: rest)
    match immediate? .program options with
    | some request => return request
    | none => throw (.noSuchCommand name)

/-- The name of the program. -/
def programName : String := "covers-check"

/-- The answer to a request for the version. -/
def versionText : String :=
  programName ++ ", version 0.1.0\n"

/-- The answers to requests for help. -/
def helpText : Topic → String
  | .program =>
    "Usage: covers-check [OPTIONS] COMMAND [ARGS]...

  Check that @covers test annotations name code that exists.

Options:
  --config TEXT  Path to the configuration file. [default: covers-check.yaml
                 if present]
  --source TEXT  Source root to index (repeatable, replaces the configured
                 roots).
  --output TEXT  Write JSON output to a file instead of stdout.
  --pretty       Pretty-print the JSON output.
  --verbose      Enable verbose logging.
  --version      Show the version and exit.
  --help         Show this message and exit.

Commands:
  check  Check test files under PATHS (default: the configured test_paths).
  init   Generate a template covers-check.yaml file.
"
  | .init =>
    "Usage: covers-check init [OPTIONS]

  Generate a template covers-check.yaml file.

Options:
  --output TEXT  Path where the template config file will be written.
                 [default: covers-check.yaml]
  --help         Show this message and exit.
"
  | .check =>
    "Usage: covers-check check [OPTIONS] [PATHS]...

  Check test files under PATHS (default: the configured test_paths).

  Exits with status 1 when any violation is found.

Options:
  --help  Show this message and exit.
"

/-- The answer to a command line that is refused. -/
def usageText : UsageError → String
  | .noArguments => helpText .program
  | error =>
    "Usage: " ++ programName ++ " [OPTIONS] COMMAND [ARGS]...\nTry '" ++ programName
      ++ " --help' for help.\n\nError: " ++ error.message ++ "\n"

end CoverAudit.CommandLine
