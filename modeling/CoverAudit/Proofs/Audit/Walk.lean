import CoverAudit.Audit.Dispatch
import CoverAudit.Proofs.Suite.Leaves

/-!
# A walk over a tree is a walk over its leaves

Visits one behind the other (`Visit.andThen`) form a monoid, with the visit that does nothing as its
unit. So the grouping of tests has no influence on what a walk does: only the order of the leaves
has (`Checker.walk_eq_visitAll`).

* `Checker.visitAll_tests`: without foreign values every test is asked, and the violations are those
  of the tests in order.
-/

namespace CoverAudit

/-- Violations are attributed to the test whose annotations were checked. -/
theorem Check.test_eq_of_mem_violations {index : SymbolIndex} {inspect : SymbolIndex.Inspection}
    {annotations : Annotations} {test : TestCase} {violation : Violation}
    (h : violation ∈ Check.violations index inspect annotations test) :
    violation.test = test.identifier := by
  obtain ⟨problem, -, rfl⟩ := List.mem_map.mp h
  rfl

namespace Visit

theorem nil_andThen (visit : Visit) : ({} : Visit).andThen visit = visit := rfl

theorem andThen_nil (visit : Visit) : visit.andThen {} = visit := by
  unfold andThen
  split
  · rfl
  · rename_i h
    obtain ⟨asked, violations, log, error⟩ := visit
    simp only [Bool.not_eq_true, Option.isSome_eq_false_iff, Option.isNone_iff_eq_none] at h
    simp [h]

theorem andThen_assoc (a b c : Visit) : (a.andThen b).andThen c = a.andThen (b.andThen c) := by
  unfold andThen
  by_cases ha : a.error.isSome
  · simp [ha]
  · by_cases hb : b.error.isSome <;> simp [ha, hb]

end Visit

namespace Checker

/-- What a walk does at one leaf. -/
def visitLeaf (checker : Checker) : TestCase ⊕ Foreign → Visit
  | .inl case => checker.checkTest case
  | .inr value => { error := some (.notATest value.kind) }

/-- What a walk does along some leaves. -/
def visitAll (checker : Checker) (leaves : List (TestCase ⊕ Foreign)) : Visit :=
  (leaves.map checker.visitLeaf).foldr Visit.andThen {}

variable {checker : Checker}

theorem visitAll_append (a b : List (TestCase ⊕ Foreign)) :
    checker.visitAll (a ++ b) = (checker.visitAll a).andThen (checker.visitAll b) := by
  induction a with
  | nil => exact (Visit.nil_andThen _).symm
  | cons leaf rest ih =>
    show (checker.visitLeaf leaf).andThen (checker.visitAll (rest ++ b)) =
      ((checker.visitLeaf leaf).andThen (checker.visitAll rest)).andThen (checker.visitAll b)
    rw [ih, Visit.andThen_assoc]

mutual

/-- The grouping of tests has no influence on a walk. -/
theorem walk_eq_visitAll : (node : TestNode) → checker.walk node = checker.visitAll node.leaves
  | .test _ => (Visit.andThen_nil _).symm
  | .group _ nodes => walkAll_eq_visitAll nodes
  | .foreign _ => (Visit.andThen_nil _).symm

theorem walkAll_eq_visitAll : (nodes : List TestNode) →
    checker.walkAll nodes = checker.visitAll (TestNode.leavesOf nodes)
  | [] => rfl
  | node :: rest => by
    rw [walkAll, TestNode.leavesOf, visitAll_append, walk_eq_visitAll node,
      walkAll_eq_visitAll rest]

end

/-- Without foreign values a walk asks every test, and finds the violations of each in order. -/
theorem visitAll_tests (tests : List TestCase) :
    (checker.visitAll (tests.map .inl)).error = none ∧
      (checker.visitAll (tests.map .inl)).asked = tests ∧
      (checker.visitAll (tests.map .inl)).violations = tests.flatMap fun test =>
        Check.violations checker.index checker.inspect (checker.annotationsOf test) test := by
  induction tests with
  | nil => exact ⟨rfl, rfl, rfl⟩
  | cons test rest ih =>
    obtain ⟨he, ha, hv⟩ := ih
    refine ⟨he, ?_, ?_⟩
    · show test :: (checker.visitAll (rest.map .inl)).asked = test :: rest
      rw [ha]
    · show Check.violations checker.index checker.inspect (checker.annotationsOf test) test ++
        (checker.visitAll (rest.map .inl)).violations = _
      rw [hv, List.flatMap_cons]

end Checker

end CoverAudit
