import CoverAudit.Audit.Violation
import CoverAudit.Table

/-!
# Collected violations

A collector keeps every violation in the order of arrival, and beside that the violations of each
test.

* `violations_recordAll`: what is recorded comes behind what was there.
* `recordAll_recordAll`: recording goes on where it stopped.
-/

namespace CoverAudit

/-- The violations found so far, in order and by test. -/
structure Collector where
  violations : List Violation := []
  /-- The violations by the identifier of their test, in order of first failure. -/
  byTest : Table (List Violation) := Table.empty

namespace Collector

/-- The collector without violations. -/
def empty : Collector := {}

/-- Records a violation of the test with the given identifier. -/
def record (collector : Collector) (test : String) (violation : Violation) : Collector where
  violations := collector.violations ++ [violation]
  byTest := collector.byTest.append test violation

/-- Records violations in order, each for the test it belongs to. -/
def recordAll (collector : Collector) (violations : List Violation) : Collector :=
  violations.foldl (fun collector violation => collector.record violation.test violation) collector

/-- What is recorded comes behind what was there. -/
theorem violations_recordAll (collector : Collector) (violations : List Violation) :
    (collector.recordAll violations).violations = collector.violations ++ violations := by
  induction violations generalizing collector with
  | nil => exact (List.append_nil _).symm
  | cons violation rest ih =>
    show ((collector.record violation.test violation).recordAll rest).violations = _
    rw [ih]
    exact List.append_assoc _ _ _

/-- Recording goes on where it stopped. -/
theorem recordAll_recordAll (collector : Collector) (first second : List Violation) :
    (collector.recordAll first).recordAll second = collector.recordAll (first ++ second) :=
  List.foldl_append.symm

end Collector

end CoverAudit
