import CoverAudit.Audit.Dispatch

/-!
# Dispatchers

A dispatcher handles completions one after the other. It asks whether coverage is being collected,
reads the annotations of tests, hands violations to a collector and writes a log. What it did
before a failure stays done, and a failure does not keep it from handling the next completion.

* `complete`: handles one completion.
* `completeAll`: handles completions in order.
-/

namespace CoverAudit

/-- What a dispatcher works with. -/
structure Dispatcher extends Checker where
  /-- The answers to its questions whether coverage is being collected, in order. -/
  isCollecting : Nat → Bool

namespace Dispatcher

/-- What a dispatcher has done so far. -/
structure State where
  /-- How often it asked whether coverage is being collected. -/
  queries : Nat := 0
  /-- The tests whose annotations it read. -/
  asked : List TestCase := []
  collector : Collector := .empty
  log : List Log.Entry := []

/-- What a dispatcher does. A failure keeps the state it was met in. -/
abbrev Action := ExceptT DispatchError (StateM State)

/-- Asks whether coverage is being collected. -/
def query (dispatcher : Dispatcher) : Action Bool := do
  let state ← get
  set { state with queries := state.queries + 1 }
  return dispatcher.isCollecting state.queries

/-- Reads the annotations of a test. -/
def read (dispatcher : Dispatcher) (test : TestCase) : Action Annotations := do
  modify fun state => { state with asked := state.asked ++ [test] }
  return dispatcher.annotationsOf test

/-- Hands a violation of a test to the collector. -/
def record (test : TestCase) (violation : Violation) : Action Unit :=
  modify fun state =>
    { state with collector := state.collector.record test.identifier violation }

/-- Writes entries to the log. -/
def note (entries : List Log.Entry) : Action Unit :=
  modify fun state => { state with log := state.log ++ entries }

/-- Checks one test. -/
def check (dispatcher : Dispatcher) (test : TestCase) : Action Unit := do
  let annotations ← dispatcher.read test
  let violations := Check.violations dispatcher.index dispatcher.inspect annotations test
  note (Check.log dispatcher.index dispatcher.inspect annotations)
  violations.forM (record test)
  note (Checker.summary test violations)

mutual

/-- Checks the tests of a tree from left to right. Fails at a foreign value. -/
def dispatch (dispatcher : Dispatcher) : TestNode → Action Unit
  | .test case => dispatcher.check case
  | .group _ nodes => dispatcher.dispatchAll nodes
  | .foreign value => throw (.notATest value.kind)

@[inherit_doc dispatch]
def dispatchAll (dispatcher : Dispatcher) : List TestNode → Action Unit
  | [] => return
  | node :: rest => do
    dispatcher.dispatch node
    dispatcher.dispatchAll rest

end

/-- Handles the completion of a node. -/
def complete (dispatcher : Dispatcher) (node : TestNode) : Action Unit := do
  if ← dispatcher.query then
    match node.label with
    | .ok label => note [Checker.skipEntry label]
    | .error failure => throw (.unnameable failure)
  else dispatcher.dispatch node

end Dispatcher

end CoverAudit
