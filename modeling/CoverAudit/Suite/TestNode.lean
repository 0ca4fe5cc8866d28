import CoverAudit.Datum

/-!
# Tests and groups of tests

A suite is a tree: tests are its leaves, modules and classes group them. A caller may also hand in
something that is neither.

* `Foreign`: a value that is neither a test nor a group. To show it, or to ask for its name, runs
  code of the caller, which may raise.
* `TestNode.label`: what messages call a node. A group and a foreign value are shown for it, whether
  or not that text is needed.
-/

namespace CoverAudit

/-- A single test. -/
structure TestCase where
  identifier : String
  name : String
  className : Option String := none
  deriving DecidableEq, Repr

/-- What code of a caller raised: the kind of the failure, and what it says. -/
structure Raised where
  kind : String
  message : String
  deriving DecidableEq, Repr, Inhabited

/-- A value of a caller that is neither a test nor a group. -/
structure Foreign where
  /-- The name of its kind. -/
  kind : String
  /-- The value as messages show it. -/
  shown : Except Raised String
  /-- What the value says it is called, if it says anything. -/
  name? : Except Raised (Option String) := .ok none
  deriving Repr, Inhabited

/-- A plain value as one of a caller. It can be shown, and has no name. -/
def Foreign.ofDatum (value : Datum) : Foreign where
  kind := value.kind
  shown := .ok value.shown

/-- A test, a group of tests, or a value that is neither. -/
inductive TestNode where
  | test (case : TestCase)
  | group (name : String) (tests : List TestNode)
  | foreign (value : Foreign)
  deriving Repr, Inhabited

namespace TestNode

mutual

/-- The tests of a tree, from left to right. -/
def tests : TestNode → List TestCase
  | .test case => [case]
  | .group _ nodes => testsOf nodes
  | .foreign _ => []

@[inherit_doc tests]
def testsOf : List TestNode → List TestCase
  | [] => []
  | node :: rest => node.tests ++ testsOf rest

end

mutual

/-- Shows the foreign values of a tree, from left to right. -/
def showAll : TestNode → Except Raised Unit
  | .test _ => return
  | .group _ nodes => showAllOf nodes
  | .foreign value => do
    let _ ← value.shown

@[inherit_doc showAll]
def showAllOf : List TestNode → Except Raised Unit
  | [] => return
  | node :: rest => do
    node.showAll
    showAllOf rest

end

/-- What messages call a node. -/
def label : TestNode → Except Raised String
  | .test case => return case.identifier
  | .group name nodes => do
    showAllOf nodes
    return name
  | .foreign value => do
    let shown ← value.shown
    let name? ← value.name?
    return name?.getD shown

end TestNode

end CoverAudit
