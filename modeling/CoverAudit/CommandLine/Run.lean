import CoverAudit.Audit
import CoverAudit.CommandLine

/-!
# Runs of the program

What a command line does to the files, what it prints, and the status it ends with. A run is a
value: the files before it, the clock and the environment go in, and the files after it come out.
The status is 1 when violations were found or the run failed, and 2 when the command line is
refused.
-/

namespace CoverAudit.CommandLine

/-- What a run has done. -/
structure Run where
  status : Nat := 0
  /-- What was printed as the result. -/
  output : String := ""
  /-- What was printed besides the result. -/
  messages : String := ""
  /-- The files after the run. -/
  tree : FileTree
  /-- The file that was written, with its text. -/
  written : Option (String × String) := none
  /-- What broke the run off. -/
  failure : Option Settings.Failure := none

/-- What a run takes from its surroundings. -/
structure Surroundings where
  tree : FileTree
  /-- How settings files are read. -/
  readSettings : Settings.Reader
  /-- How source files are parsed. -/
  parse : Source.Reader
  /-- What is known about classes outside of the project. -/
  inspect : SymbolIndex.Inspection
  /-- The source roots given by the environment. -/
  sourceRoots : Option String := none
  /-- The time of day, as text. -/
  clock : String

/-- The lines for log entries: everything when `verbose`, otherwise the bare warnings. -/
def logLines (verbose : Bool) (entries : List Log.Entry) : List String :=
  if verbose then entries.map Log.Entry.verbose
  else (entries.filter fun entry => entry.severity = .warning).map Log.Entry.message

/-- Lines with an end each. -/
def textOf (lines : List String) : String :=
  String.join (lines.map (· ++ "\n"))

/-- The name of the place that a path leads to. -/
def placeName (tree : FileTree) (path : String) : String :=
  match tree.locate (Path.ofString path) with
  | .ok place => place.toString
  | .error _ => path

/-- Writes a settings file to start from. -/
def runInit (surroundings : Surroundings) (path : String) : Run :=
  let tree := surroundings.tree
  match Settings.writeTemplate tree path with
  | .ok after =>
    { tree := after
      output := textOf
        ["Template written to '" ++ path ++ "'.", "Edit it with your source roots and test paths."]
      written := some (placeName tree path, Settings.template) }
  | .error (.mistake mistake) =>
    { tree, status := 1, messages := textOf ["Error: " ++ mistake.message] }
  | .error failure => { tree, status := 1, failure := some failure }

/-- The settings that an audit goes by. A settings file that was asked for has to be there. -/
def settingsOf (surroundings : Surroundings) (options : Options) :
    Except Settings.Failure Settings := do
  let path := match options.config with
    | some "" => Settings.defaultPath
    | some path => path
    | none => Settings.defaultPath
  let settings ←
    Settings.loadBy surroundings.readSettings surroundings.tree path options.config.isSome
      surroundings.sourceRoots
  if options.sources.isEmpty then return settings
  else return { settings with sourceRoots := options.sources }

/-- The lines that tell how an audit went. -/
def auditLines (options : Options) (settings : Settings) (paths : List String) (audit : Audit) :
    List String :=
  let announce (text : String) (names : List String) : List String :=
    if options.verbose then ["[verbose] " ++ text ++ ": " ++ Text.glue ", " names] else []
  announce "Indexing source roots" settings.sourceRoots ++
    logLines options.verbose audit.indexLog ++
    announce "Collecting tests from" paths ++
    logLines options.verbose (audit.suiteLog ++ audit.visit.log)

/-- The status of an audit. -/
def auditStatus (audit : Audit) : Nat :=
  if audit.violations.isEmpty then 0 else 1

/-- Hands out the report of an audit. -/
def emit (surroundings : Surroundings) (options : Options) (report : Report) (run : Run) : Run :=
  let text := if options.pretty then report.value.pretty else report.value.compact
  match options.output with
  | none => { run with output := text ++ "\n" }
  | some "" => { run with output := text ++ "\n" }
  | some path =>
    match surroundings.tree.create path text with
    | .ok tree =>
      { run with
        tree
        messages := run.messages ++ textOf ["Report written to '" ++ path ++ "'"]
        written := some (placeName surroundings.tree path, text) }
    | .error error => { run with status := 1, failure := some (.file path error) }

/-- Audits tests and reports what was found. -/
def runCheck (surroundings : Surroundings) (options : Options) (paths : List String) : Run :=
  let tree := surroundings.tree
  match settingsOf surroundings options with
  | .error (.mistake mistake) =>
    { tree, status := 1, messages := textOf ["Configuration error: " ++ mistake.message] }
  | .error failure => { tree, status := 1, failure := some failure }
  | .ok settings =>
    let paths := if paths.isEmpty then settings.testPaths else paths
    let audit := Audit.run tree surroundings.parse surroundings.inspect settings paths
    emit surroundings options (audit.report surroundings.clock paths)
      { tree
        status := auditStatus audit
        messages := textOf (auditLines options settings paths audit) }

/-- Does what a command line asks for. -/
def run (surroundings : Surroundings) (arguments : List String) : Run :=
  let tree := surroundings.tree
  match parse arguments with
  | .error error => { tree, status := 2, messages := usageText error }
  | .ok (.help topic) => { tree, output := helpText topic }
  | .ok .version => { tree, output := versionText }
  | .ok (.init path) => runInit surroundings path
  | .ok (.check options paths) => runCheck surroundings options paths

end CoverAudit.CommandLine
