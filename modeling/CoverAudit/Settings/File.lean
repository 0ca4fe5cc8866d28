import CoverAudit.Files.Tree
import CoverAudit.Settings

/-!
# Settings files

Reads settings from a file, and writes a file to start from. What a user has to mend in the
settings is a mistake; what keeps the file itself from being read is a failure of its own.
-/

namespace CoverAudit.Settings

/-- The settings file of a project. -/
def defaultPath : String := "covers-check.yaml"

/-- What a user has to mend. Paths are given as the user wrote them. -/
inductive Mistake where
  /-- There is no settings file, and one was asked for. -/
  | missing (path : String)
  /-- The file is no YAML document. -/
  | malformed (path : String)
  /-- The document is no mapping. -/
  | notAMapping (path : String)
  | invalid (problems : List Problem)
  /-- A file would be overwritten. -/
  | alreadyThere (path : String)
  deriving DecidableEq, Repr

/-- The mistake in words. -/
def Mistake.message : Mistake → String
  | .missing path =>
    "Config file not found: '" ++ path ++ "'\nRun `covers-check init` to generate a template."
  | .malformed path => "Failed to parse '" ++ path ++ "': " ++ Yaml.Fault.malformed.message
  | .notAMapping path => "'" ++ path ++ "' must be a YAML mapping at the top level."
  | .invalid problems =>
    "Invalid configuration:\n" ++
      Text.glue "\n" (problems.map fun problem => "  - " ++ problem.message)
  | .alreadyThere path =>
    "'" ++ path ++ "' already exists. Remove it first or choose a different path."

/-- Why there are no settings. -/
inductive Failure where
  | mistake (mistake : Mistake)
  /-- The file at a path can not be read or written. -/
  | file (path : String) (error : FileError)
  /-- A scalar of the document is not what it claims to be. -/
  | value (fault : Yaml.Fault)
  deriving DecidableEq, Repr

/-- The settings that a document holds. An empty document has all defaults. -/
def ofGraph (path : String) (graph : Yaml.Graph) (override : Option String) :
    Except Mistake Settings :=
  let entries := if graph.root = .null then some [] else graph.entries? graph.root
  match entries with
  | none => .error (.notAMapping path)
  | some entries => (ofEntries graph entries override).mapError .invalid

/-- A way to read the values of a document from its text. -/
abbrev Reader := String → Except Yaml.Fault Yaml.Graph

/-- The settings in the text of a file. -/
def ofText (reader : Reader) (path : String) (text : String) (override : Option String) :
    Except Failure Settings :=
  match reader text with
  | .ok graph => (ofGraph path graph override).mapError .mistake
  | .error .malformed => .error (.mistake (.malformed path))
  | .error fault => .error (.value fault)

/-- Loads settings from a file whose text is read by `reader`. A file that is not there is a mistake
if it is required, and otherwise as good as an empty one. -/
def loadBy (reader : Reader) (tree : FileTree) (path : String) (required : Bool)
    (override : Option String) : Except Failure Settings :=
  let place := Path.ofString path
  if tree.exists? place then
    match tree.read place with
    | .ok text => ofText reader path text override
    | .error error => .error (.file place.toString error)
  else if required then .error (.mistake (.missing path))
  else (ofGraph path { root := .null, collections := [] } override).mapError .mistake

/-- Loads settings from a YAML file. -/
def load (tree : FileTree) (path : String) (required : Bool) (override : Option String) :
    Except Failure Settings :=
  loadBy Yaml.load tree path required override

/-- A settings file to start from; it holds the defaults. -/
def template : String :=
  "# Import roots of the code under test; `src/pkg/mod.py` is indexed as `pkg.mod`.
source_roots:
  - src

# Test files checked by `covers-check check` when no path is given.
test_paths:
  - tests

# Classes deriving directly from one of these are interfaces and can not be
# named by @covers or @coversDefaultClass.
interface_bases:
  - Protocol
  - Interface

# Leave coverage runs (pytest --cov) alone.
skip_when_collecting_coverage: true
"

/-- Writes a settings file to start from, where nothing is yet. -/
def writeTemplate (tree : FileTree) (path : String) : Except Failure FileTree :=
  let place := Path.ofString path
  if tree.exists? place then .error (.mistake (.alreadyThere path))
  else (tree.write place template).mapError (.file place.toString)

end CoverAudit.Settings
