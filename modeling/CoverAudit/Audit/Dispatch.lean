import CoverAudit.Audit.Check
import CoverAudit.Audit.Collector

/-!
# Completed tests

When a test, or a group of tests, is complete, the annotations of its tests are checked from left
to right. Nothing is checked while coverage is being collected; the log then calls the node by its
label. A value that is neither a test nor a group ends the walk; what was found before it stays
found.
-/

namespace CoverAudit

/-- Why a completion can not be handled. -/
inductive DispatchError where
  /-- It holds a value of this kind, which is neither a test nor a group. -/
  | notATest (kind : String)
  /-- A value in it raised when the node was to be named. -/
  | unnameable (failure : Raised)
  deriving DecidableEq, Repr

/-- The error in words. -/
def DispatchError.message : DispatchError → String
  | .notATest kind => "Cannot dispatch completion of " ++ kind
  | .unnameable failure => failure.message

/-- What checks need to know. -/
structure Checker where
  index : SymbolIndex
  /-- What is known about classes outside of the index. -/
  inspect : SymbolIndex.Inspection
  annotationsOf : TestCase → Annotations

/-- What a walk over completed tests did. -/
structure Visit where
  /-- The tests whose annotations were read. -/
  asked : List TestCase := []
  violations : List Violation := []
  log : List Log.Entry := []
  error : Option DispatchError := none

namespace Visit

/-- One walk behind the other; the second does not start when the first one failed. -/
def andThen (first second : Visit) : Visit :=
  if first.error.isSome then first
  else
    { asked := first.asked ++ second.asked
      violations := first.violations ++ second.violations
      log := first.log ++ second.log
      error := second.error }

end Visit

namespace Checker

/-- What is said of a test that has violations. -/
def summary (test : TestCase) (violations : List Violation) : List Log.Entry :=
  if violations.isEmpty then []
  else
    [⟨.debug, .dispatch,
      test.identifier ++ ": " ++ toString violations.length ++ " @covers violation(s)"⟩]

/-- What is said of a node that is not checked because coverage is being collected. -/
def skipEntry (label : String) : Log.Entry :=
  ⟨.debug, .dispatch, "Coverage collection active, skipping " ++ label⟩

/-- Checks one test. -/
def checkTest (checker : Checker) (test : TestCase) : Visit :=
  let annotations := checker.annotationsOf test
  let violations := Check.violations checker.index checker.inspect annotations test
  { asked := [test]
    violations
    log := Check.log checker.index checker.inspect annotations ++ summary test violations }

mutual

/-- Checks the tests of a tree from left to right, up to the first foreign value. -/
def walk (checker : Checker) : TestNode → Visit
  | .test case => checker.checkTest case
  | .group _ nodes => checker.walkAll nodes
  | .foreign value => { error := some (.notATest value.kind) }

@[inherit_doc walk]
def walkAll (checker : Checker) : List TestNode → Visit
  | [] => {}
  | node :: rest => (checker.walk node).andThen (checker.walkAll rest)

end

/-- Handles the completion of a node. `collecting` says whether coverage is being collected. -/
def complete (checker : Checker) (collecting : Bool) (node : TestNode) : Visit :=
  if collecting then
    match node.label with
    | .ok label => { log := [skipEntry label] }
    | .error failure => { error := some (.unnameable failure) }
  else checker.walk node

end Checker

end CoverAudit
