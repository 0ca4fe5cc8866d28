import CoverAudit.Audit.Dispatch
import CoverAudit.Report
import CoverAudit.Settings
import CoverAudit.Suite.Collect
import CoverAudit.Symbol.SourceRoot

/-!
# Audits

An audit of a project without running its tests: the code below the source roots is indexed, the
tests below the test paths are collected, and the annotations of every test are checked. How a
source file is parsed, and what is known about classes outside of the project, is up to the
surroundings.
-/

namespace CoverAudit

/-- What an audit went through. -/
structure Audit where
  index : SymbolIndex
  suite : Suite
  /-- The walk over the tests of the suite. -/
  visit : Visit
  indexLog : List Log.Entry
  suiteLog : List Log.Entry

namespace Audit

/-- Audits the tests below some paths. -/
def run (tree : FileTree) (parse : Source.Reader) (inspect : SymbolIndex.Inspection)
    (settings : Settings) (testPaths : List String) : Audit :=
  let (index, indexLog) :=
    SymbolIndex.ofRoots tree parse settings.interfaceBases
      (settings.sourceRoots.map Path.ofString)
  let (suite, suiteLog) := Suite.ofPaths tree parse (testPaths.map Path.ofString)
  let checker : Checker := { index, inspect, annotationsOf := suite.annotationsOf }
  { index, suite, visit := checker.complete false suite.root, indexLog, suiteLog }

/-- The violations that an audit found. -/
def violations (audit : Audit) : List Violation :=
  audit.visit.violations

/-- The report of an audit of the tests below some paths. -/
def report (audit : Audit) (generatedAt : String) (testPaths : List String) : Report where
  generatedAt
  paths := testPaths
  testsChecked := audit.suite.tests.length
  violations := audit.violations

end Audit

end CoverAudit
