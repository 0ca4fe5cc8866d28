import CoverAudit.Audit.Dispatch
import CoverAudit.CommandLine.Options
import CoverAudit.Runner.TestItem
import CoverAudit.Runner.TestReport
import CoverAudit.Settings.File
import CoverAudit.Symbol.SourceRoot

/-!
# Checks within a test session

While a test runner runs tests, each test is checked once: when the report of its call arrives, or
that of its setup when the setup did not pass. Violations are added to that report. Nothing is
checked while coverage is being collected, unless the settings say otherwise. As in an audit, how
sources are parsed and what is known about classes outside of the project is up to the surroundings.
-/

namespace CoverAudit

/-- What the user asks of a test runner. -/
structure Session.Options where
  enabled : Bool := false
  /-- The settings file that was asked for. -/
  config : Option String := none
  /-- Source roots that replace those of the settings. -/
  sources : List String := []
  deriving DecidableEq, Repr

/-- What a test runner says about itself. -/
structure Session.Host where
  /-- The directory of the project. -/
  root : Path := {}
  /-- Whether the project enables the checks. -/
  enabled : Bool := false
  /-- Whether coverage can be collected. -/
  coverage : Bool := false
  /-- Whether collecting coverage is turned off. -/
  coverageOff : Bool := false
  deriving DecidableEq, Repr

/-- A test session with checks. -/
structure Session where
  host : Session.Host
  settings : Settings
  index : SymbolIndex
  /-- What is known about classes outside of the index. -/
  inspect : SymbolIndex.Inspection

namespace Session

/-- The options that a test runner gets. -/
def grammar : OptionGrammar where
  valued := ["--covers-config", "--covers-source"]
  flags := ["--covers-check"]
  mixed := true

/-- The options on the command line of a test runner. -/
def Options.parse (arguments : List String) : Except UsageError Options := do
  let (options, _) ← grammar.parse arguments
  return {
    enabled := GivenOption.isGiven "--covers-check" options
    config := GivenOption.valueOf? "--covers-config" options
    sources := GivenOption.valuesOf "--covers-source" options }

/-- What the markers that declare annotations are for. -/
def markerLines : List String :=
  ["covers(*targets): coverage targets of the test, same syntax as @covers",
    "covers_default_class(name): class used by '::member' coverage targets"]

/-- The settings of a session. -/
def settingsOf (tree : FileTree) (host : Host) (options : Options) (override : Option String) :
    Except Settings.Failure Settings := do
  let implied := (host.root.join (Path.ofString Settings.defaultPath)).toString
  let settings ← match options.config with
    | none => Settings.load tree implied false override
    | some "" => Settings.load tree implied false override
    | some path => Settings.load tree path true override
  if options.sources.isEmpty then return settings
  else return { settings with sourceRoots := options.sources }

/-- The source roots, seen from the directory of the project. -/
def roots (host : Host) (settings : Settings) : List Path :=
  settings.sourceRoots.map fun root => host.root.join (Path.ofString root)

/-- Starts the checks of a session, if they are enabled at all. -/
def start (tree : FileTree) (parse : Source.Reader) (inspect : SymbolIndex.Inspection)
    (host : Host) (options : Options) (override : Option String) :
    Except Settings.Failure (Option Session × List Log.Entry) := do
  if !(options.enabled || host.enabled) then return (none, [])
  let settings ← settingsOf tree host options override
  let roots := roots host settings
  let (index, log) := SymbolIndex.ofRoots tree parse settings.interfaceBases roots
  let enabled : Log.Entry :=
    ⟨.debug, .session,
      "covers-check enabled for source roots " ++ Text.quotedList (roots.map Path.toString)⟩
  return (some { host, settings, index, inspect }, log ++ [enabled])

/-- Whether coverage is being collected, as far as the session has to care. -/
def isCollecting (session : Session) : Bool :=
  session.settings.skipWhenCollecting && !session.host.coverageOff && session.host.coverage

/-- Takes note of a report about an item: the report with violations added, and log entries. -/
def receive (session : Session) (item : TestItem) (report : TestReport) :
    TestReport × List Log.Entry :=
  if report.isFinal then
    let checker : Checker :=
      { index := session.index, inspect := session.inspect
        annotationsOf := fun _ => item.annotations }
    let visit := checker.complete session.isCollecting (.test item.testCase)
    (report.amend visit.violations, visit.log)
  else (report, [])

/-- Takes note of reports in the order in which they arrive. -/
def receiveAll (session : Session) (events : List (TestItem × TestReport)) :
    List (TestReport × List Log.Entry) :=
  events.map fun (item, report) => session.receive item report

/-- Why a session can not start, in words. -/
def refusal (mistake : Settings.Mistake) : String :=
  "covers-check: " ++ mistake.message

end Session

end CoverAudit
