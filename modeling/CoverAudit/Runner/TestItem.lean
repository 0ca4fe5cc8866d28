import CoverAudit.Annotations
import CoverAudit.Suite.TestNode

/-!
# Tests in a running session

A test as a test runner knows it, with its docblocks and markers at hand.
-/

namespace CoverAudit

/-- A class that holds tests. -/
structure TestItem.Class where
  name : String
  doc : Option String
  deriving DecidableEq, Repr

/-- A test in a running session. -/
structure TestItem where
  identifier : String
  name : String
  /-- The class around the test. -/
  class? : Option TestItem.Class := none
  moduleDoc : Option String := none
  functionDoc : Option String := none
  /-- The markers with their arguments, closest first. -/
  markers : List (String × List Datum) := []
  deriving Repr

namespace TestItem

/-- The test behind an item. -/
def testCase (item : TestItem) : TestCase where
  identifier := item.identifier
  name := item.name
  className := item.class?.map Class.name

/-- The text that an argument of a marker is, without blanks around it. -/
def argumentText? : Datum → Option String
  | .text value => some (Text.strip value)
  | _ => none

/-- The texts among the arguments of the markers of a name. -/
def markerValues (item : TestItem) (name : String) : List String :=
  item.markers.flatMap fun (marker, arguments) =>
    if marker = name then arguments.filterMap argumentText? else []

/-- The docblock that declares default classes: that of the class, or of the module when there is
no class. -/
def classDoc (item : TestItem) : Option String :=
  match item.class? with
  | some holder => holder.doc
  | none => item.moduleDoc

/-- The coverage annotations of an item. -/
def annotations (item : TestItem) : Annotations :=
  Annotations.ofDocblocks item.classDoc item.functionDoc
    (item.markerValues Annotations.defaultClassMarker) (item.markerValues Annotations.coversTag)

end TestItem

end CoverAudit
