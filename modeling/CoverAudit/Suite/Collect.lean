import CoverAudit.Files.SourceFiles
import CoverAudit.Suite.Marker
import CoverAudit.Suite.TestNode

/-!
# Collection of tests

Finds the tests of source files without running them: functions named `test…`, directly in a
module or in classes named `Test…`, and the coverage annotations of each. `@coversDefaultClass` is
read from the docblock of the class around a test, or of the module when there is none, `@covers`
from the docblock of the test; markers count from the closest scope outwards.
-/

namespace CoverAudit

/-- Tests with their annotations. Where two tests share an identifier the annotations of the later
one count for both. -/
structure Suite where
  root : TestNode
  annotations : Table Annotations

namespace Suite

/-- The annotations of a test; a test that the suite does not know has none. -/
def annotationsOf (suite : Suite) (test : TestCase) : Annotations :=
  suite.annotations.getD test.identifier {}

/-- The tests of a suite, from left to right. -/
def tests (suite : Suite) : List TestCase :=
  suite.root.tests

end Suite

namespace Collect

/-- A collected tree, with the annotations of its tests from left to right. -/
structure Collected where
  node : TestNode
  annotated : List (String × Annotations)

/-- Whether a function of this name is a test. -/
def isTestName (name : String) : Bool :=
  ['t', 'e', 's', 't'].isPrefixOf name.toList

/-- Whether a class of this name holds tests. -/
def isTestClassName (name : String) : Bool :=
  ['T', 'e', 's', 't'].isPrefixOf name.toList

/-- What the tests of a body inherit from the scopes around them. -/
structure Scope where
  identifier : String
  className : Option String
  doc : Option String
  /-- The markers of the scopes around a test, closest first. -/
  markers : List Markers

/-- Collects a test function. -/
def testCase (scope : Scope) (name : String) (decorators : List Source.Expr)
    (body : List Source.Stmt) : Collected :=
  let identifier := scope.identifier ++ "::" ++ name
  let marked := Markers.concat (Markers.ofExprs decorators :: scope.markers)
  { node := .test { identifier, name, className := scope.className }
    annotated :=
      [(identifier, Annotations.ofDocblocks scope.doc (Source.docstring? body)
        marked.defaultClasses marked.covers)] }

mutual

/-- Collects what one statement of a body contributes. -/
def statement (scope : Scope) : Source.Stmt → List Collected
  | .function name decorators body =>
    if isTestName name.text then [testCase scope name.text decorators body] else []
  | .classDef name _ decorators body =>
    if isTestClassName name.text then
      let identifier := scope.identifier ++ "::" ++ name.text
      let inner : Scope :=
        { identifier
          className := some name.text
          doc := Source.docstring? body
          markers := (Markers.ofExprs decorators).append (Markers.ofBody body) :: scope.markers }
      let collected := statements inner body
      [{ node := .group identifier (collected.map Collected.node)
         annotated := collected.flatMap Collected.annotated }]
    else []
  | _ => []

/-- Collects what the statements of a body contribute, in order. -/
def statements (scope : Scope) : List Source.Stmt → List Collected
  | [] => []
  | first :: rest => statement scope first ++ statements scope rest

end

/-- Collects the tests of a module. -/
def module (identifier : String) (body : List Source.Stmt) : Collected :=
  let scope : Scope :=
    { identifier, className := none, doc := Source.docstring? body
      markers := [Markers.ofBody body] }
  let collected := statements scope body
  { node := .group identifier (collected.map Collected.node)
    annotated := collected.flatMap Collected.annotated }

/-- Collects the tests of a file, or says why it is skipped. -/
def file (tree : FileTree) (parse : Source.Reader) (path : Path) :
    Option Collected × List Log.Entry :=
  match tree.readSource parse path with
  | .ok body => (some (module path.toString body), [])
  | .error error => (none, [error.logEntry .collection path])

/-- Whether a file of this name holds tests. -/
def isTestFileName (name : String) : Bool :=
  "test_".toList.isPrefixOf name.toList || "_test.py".toList.isSuffixOf name.toList

/-- The test files that a path names: the file itself, or those below the directory. -/
def testFiles (tree : FileTree) (path : Path) : List Path × List Log.Entry :=
  if tree.isFile path then ([path], [])
  else if tree.isDirectory path then
    let found := (tree.sourcesBelow path).filter fun parts => isTestFileName (parts.getLastD "")
    (found.map path.below, [])
  else
    ([], [⟨.warning, .collection, "Test path '" ++ path.toString ++ "' does not exist, skipping"⟩])

/-- Collects the tests of some files in order. -/
def files (tree : FileTree) (parse : Source.Reader) :
    List Path → List Collected × List Log.Entry
  | [] => ([], [])
  | path :: rest =>
    let (collected, entries) := file tree parse path
    let (more, moreEntries) := files tree parse rest
    (collected.toList ++ more, entries ++ moreEntries)

/-- Collects the tests below some paths in order. -/
def paths (tree : FileTree) (parse : Source.Reader) :
    List Path → List Collected × List Log.Entry
  | [] => ([], [])
  | path :: rest =>
    let (found, entries) := testFiles tree path
    let (collected, fileEntries) := files tree parse found
    let (more, moreEntries) := paths tree parse rest
    (collected ++ more, entries ++ fileEntries ++ moreEntries)

end Collect

/-- The suite of a collected tree. -/
def Suite.ofCollected (collected : Collect.Collected) : Suite where
  root := collected.node
  annotations := Table.empty.insertMany collected.annotated

/-- The suite of all tests below some paths. -/
def Suite.ofPaths (tree : FileTree) (parse : Source.Reader) (paths : List Path) :
    Suite × List Log.Entry :=
  let (collected, entries) := Collect.paths tree parse paths
  let suite := Suite.ofCollected
    { node := .group "session" (collected.map Collect.Collected.node)
      annotated := collected.flatMap Collect.Collected.annotated }
  (suite, entries)

end CoverAudit
