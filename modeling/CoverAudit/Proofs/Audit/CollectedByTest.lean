import CoverAudit.Audit.Collector
import CoverAudit.Audit.Inquiry
import CoverAudit.Proofs.CommandLine.CheckReport
import Mathlib.Algebra.BigOperators.Group.Finset.Basic
import Mathlib.Algebra.Ring.Nat

/-!
# Violations by test

A collector keeps every violation twice: in order of arrival, and under the identifier of its test.
The two views agree because each violation carries the identifier of the test it is recorded for, in
whatever order tests come and however often they come again.

* `Collector.Grouped`: the two views agree. Recording keeps it (`Grouped.record`,
  `Grouped.recordAll`).
* `Inquiry.Hands`: an action hands violations of one test to the collector and keeps the same ones.
  It is closed under what validations are made of (`Hands.bind`, `Hands.ite`), and holds also where
  a question fails.
* `Inquiry.run_call`, `Inquiry.run_checkAll`: what one validation adds to a collector, and many.
* `Inquiry.checkAll_groups`: the groups of a collector after any validations.
-/

namespace CoverAudit

namespace Collector

/-! ## Groups -/

/-- The violations of a collector are grouped by their tests, the groups in order of first
failure. -/
structure Grouped (collector : Collector) : Prop where
  mem_keys : ∀ identifier,
    identifier ∈ collector.byTest.keys ↔ identifier ∈ collector.violations.map Violation.test
  ordered : collector.byTest.keys.Pairwise fun first second =>
    (collector.violations.map Violation.test).idxOf first <
      (collector.violations.map Violation.test).idxOf second
  group : ∀ identifier, collector.byTest.getD identifier [] =
    collector.violations.filter fun violation => violation.test = identifier

variable {collector : Collector}

theorem grouped_empty : empty.Grouped :=
  ⟨fun _ => Iff.rfl, List.Pairwise.nil, fun _ => rfl⟩

/-- A violation that is recorded for its own test keeps the groups. -/
theorem Grouped.record (h : collector.Grouped) (violation : Violation) :
    (collector.record violation.test violation).Grouped := by
  have hkeys : (collector.record violation.test violation).byTest.keys =
      if violation.test ∈ collector.byTest.keys then collector.byTest.keys
      else collector.byTest.keys ++ [violation.test] :=
    Table.keys_insert _ _ _
  have hidentifiers : (collector.record violation.test violation).violations.map Violation.test =
      collector.violations.map Violation.test ++ [violation.test] :=
    List.map_append
  -- Where an identifier occurs first does not change by one that comes behind it.
  have hordered : collector.byTest.keys.Pairwise fun first second =>
      (collector.violations.map Violation.test ++ [violation.test]).idxOf first <
        (collector.violations.map Violation.test ++ [violation.test]).idxOf second := by
    refine h.ordered.imp_of_mem fun hfirst hsecond hlt => ?_
    rwa [List.idxOf_append_of_mem ((h.mem_keys _).mp hfirst),
      List.idxOf_append_of_mem ((h.mem_keys _).mp hsecond)]
  constructor
  · intro identifier
    rw [hidentifiers, List.mem_append, ← h.mem_keys, List.mem_singleton]
    exact Table.mem_keys_insert _ _ _ _
  · rw [hkeys, hidentifiers]
    split
    · exact hordered
    · rename_i hnew
      rw [h.mem_keys] at hnew
      refine List.pairwise_append.mpr ⟨hordered, List.pairwise_singleton _ _, ?_⟩
      intro first hfirst second hsecond
      have hmem := (h.mem_keys first).mp hfirst
      rw [List.mem_singleton.mp hsecond, List.idxOf_append_of_mem hmem,
        List.idxOf_append_of_notMem hnew]
      exact (List.idxOf_lt_length_of_mem hmem).trans_le (Nat.le_add_right _ _)
  · intro identifier
    show (collector.byTest.append violation.test violation).getD identifier [] =
      (collector.violations ++ [violation]).filter _
    rw [List.filter_append, ← h.group, Table.getD_append]
    by_cases he : violation.test = identifier
    · simp [he]
    · simp [he, Ne.symm he]

/-- So do violations that are recorded one after the other. -/
theorem Grouped.recordAll (h : collector.Grouped) (violations : List Violation) :
    (collector.recordAll violations).Grouped := by
  induction violations generalizing collector with
  | nil => exact h
  | cons violation rest ih => exact ih (h.record violation)

theorem Grouped.get?_eq_some_iff (h : collector.Grouped) {identifier : String}
    {group : List Violation} :
    collector.byTest.get? identifier = some group ↔
      identifier ∈ collector.violations.map Violation.test ∧
        group = collector.violations.filter fun violation => violation.test = identifier := by
  rw [← h.group, ← h.mem_keys, Table.mem_keys_iff, Table.getD]
  cases collector.byTest.get? identifier with
  | none => simp
  | some found => simp [eq_comm]

theorem Grouped.ne_nil (h : collector.Grouped) {entry : String × List Violation}
    (he : entry ∈ collector.byTest.toList) : entry.2 ≠ [] := by
  obtain ⟨hmem, hgroup⟩ := h.get?_eq_some_iff.mp (Table.get?_eq_some_iff.mpr he)
  obtain ⟨violation, hv, htest⟩ := List.mem_map.mp hmem
  rw [hgroup]
  exact List.ne_nil_of_mem (List.mem_filter.mpr ⟨hv, by simpa using htest⟩)

/-- Each violation is in one group. -/
theorem Grouped.sum_length (h : collector.Grouped) :
    (collector.byTest.toList.map fun entry => entry.2.length).sum =
      collector.violations.length := by
  have hcount : ∀ entry ∈ collector.byTest.toList,
      entry.2.length = (collector.violations.map Violation.test).count entry.1 := by
    intro entry he
    obtain ⟨-, hgroup⟩ := h.get?_eq_some_iff.mp (Table.get?_eq_some_iff.mpr he)
    rw [hgroup, List.count_eq_countP, List.countP_map, List.countP_eq_length_filter]
    rfl
  have hall : ∀ identifier ∈ (collector.violations.map Violation.test : Multiset String),
      identifier ∈ collector.byTest.keys.toFinset := by
    intro identifier hi
    exact List.mem_toFinset.mpr ((h.mem_keys identifier).mpr hi)
  calc (collector.byTest.toList.map fun entry => entry.2.length).sum
      = (collector.byTest.keys.map fun identifier =>
          (collector.violations.map Violation.test).count identifier).sum := by
        rw [List.map_congr_left hcount, Table.keys, List.map_map]
        rfl
    _ = collector.violations.length := by
        rw [← List.sum_toFinset _ collector.byTest.nodup_keys]
        simpa using Multiset.sum_count_eq_card hall

/-- There are as many groups as tests with violations. -/
theorem Grouped.testsWithViolations_eq (h : collector.Grouped) {report : Report}
    (hr : report.violations = collector.violations) :
    report.testsWithViolations = collector.byTest.keys.length := by
  have hset : (collector.violations.map Violation.test).toFinset =
      collector.byTest.keys.toFinset := by
    ext identifier
    rw [List.mem_toFinset, List.mem_toFinset, h.mem_keys]
  rw [report.testsWithViolations_eq_card, hr, hset,
    List.toFinset_card_of_nodup collector.byTest.nodup_keys]

end Collector

/-! ## Validations with a collector -/

namespace Inquiry

/-- What validations do that hand violations to a collector. A question may fail; what was recorded
before it stays recorded. -/
abbrev Collecting (ε : Type) := ExceptT ε (StateM Collector)

/-- What one of them does, keeping the violations that it will return. -/
abbrev Keeping (ε : Type) := StateT (List Violation) (Collecting ε)

/-- Hands a violation of a test to the collector. -/
def collected (ε : Type) (test : TestCase) (violation : Violation) : Collecting ε Unit :=
  modify fun collector => collector.record test.identifier violation

/-- Questions with the given answers, some of which may be failures. -/
def answering {ε : Type} (answers : Questions (Except ε)) : Questions (Collecting ε) where
  typeExists name := ofExcept (answers.typeExists name)
  isInterface name := ofExcept (answers.isInterface name)
  functionExists name := ofExcept (answers.functionExists name)
  memberExists typeName member := ofExcept (answers.memberExists typeName member)

/-- One validation that is to be made, with the answers that it will get. -/
structure Call (ε : Type) where
  answers : Questions (Except ε)
  test : TestCase
  annotations : Annotations

/-- Validates the annotations of the test. -/
def Call.check {ε : Type} (call : Call ε) : Collecting ε (List Violation) :=
  Inquiry.check (answering call.answers) (collected ε) call.test call.annotations

/-- Makes validations one after the other, and says how each one ended. One that fails does not
keep the next from being made. -/
def checkAll {ε : Type} : List (Call ε) → StateM Collector (List (Except ε (List Violation)))
  | [] => return []
  | call :: rest => do
    let outcome ← call.check.run
    let outcomes ← checkAll rest
    return outcome :: outcomes

variable {ε α β : Type} {test : TestCase}

theorem run_bind (action : Collecting ε α) (next : α → Collecting ε β) (collector : Collector) :
    (action >>= next).run.run collector =
      match action.run.run collector with
      | (.ok value, after) => (next value).run.run after
      | (.error failure, after) => (.error failure, after) := by
  rw [ExceptT.run_bind, StateT.run_bind]
  rcases action.run.run collector with ⟨_ | _, _⟩ <;> rfl

/-- `action` hands some violations of `test` to the collector, and keeps the same ones behind those
that it has kept before. -/
def Hands (test : TestCase) (action : Keeping ε α) : Prop :=
  ∀ kept collector, ∃ found : List Violation,
    (∀ violation ∈ found, violation.test = test.identifier) ∧
      ((action.run kept).run.run collector).2 = collector.recordAll found ∧
      ∀ value after, ((action.run kept).run.run collector).1 = .ok (value, after) →
        after = kept ++ found

section Actions

variable {action other : Keeping ε α}

theorem Hands.pure (value : α) :
    Hands test (Pure.pure value : Keeping ε α) := by
  intro kept collector
  refine ⟨[], List.forall_mem_nil _, rfl, ?_⟩
  rintro _ _ ⟨⟩
  exact (List.append_nil kept).symm

theorem Hands.bind {next : α → Keeping ε β} (h : Hands test action)
    (hnext : ∀ value, Hands test (next value)) : Hands test (action >>= next) := by
  intro kept collector
  obtain ⟨first, hfirst, hstate, hkept⟩ := h kept collector
  rw [StateT.run_bind, run_bind]
  rcases hrun : (action.run kept).run.run collector with ⟨result, middle⟩
  rw [hrun] at hstate hkept
  obtain rfl : middle = collector.recordAll first := hstate
  cases result with
  | error failure => exact ⟨first, hfirst, rfl, nofun⟩
  | ok pair =>
    obtain ⟨value, after⟩ := pair
    obtain ⟨second, hsecond, hstate, hmore⟩ := hnext value after (collector.recordAll first)
    refine ⟨first ++ second, List.forall_mem_append.mpr ⟨hfirst, hsecond⟩, ?_, fun _ _ hok => ?_⟩
    · rw [hstate, Collector.recordAll_recordAll]
    · rw [hmore _ _ hok, hkept value after rfl, List.append_assoc]

theorem Hands.ite {p : Prop} [Decidable p] (h : Hands test action) (ho : Hands test other) :
    Hands test (if p then action else other) := by
  split
  · exact h
  · exact ho

/-- A question hands over nothing, whether it is answered or fails. -/
theorem Hands.ask (answer : Except ε α) :
    Hands test (liftM (ofExcept answer : Collecting ε α) : Keeping ε α) := by
  intro kept collector
  cases answer with
  | error failure => exact ⟨[], List.forall_mem_nil _, rfl, nofun⟩
  | ok value => exact Hands.pure value kept collector

theorem hands_report (problem : Problem) :
    Hands test (Validation.report (collected ε) test problem) := by
  intro kept collector
  refine ⟨[problem.violationOf test], ?_, rfl, ?_⟩
  · exact List.forall_mem_singleton.mpr rfl
  · rintro _ _ ⟨⟩
    rfl

/-- A validation returns what it has handed over. -/
theorem Hands.run_kept {validation : Keeping ε Unit} (h : Hands test validation)
    (collector : Collector) :
    ∃ found : List Violation, (∀ violation ∈ found, violation.test = test.identifier) ∧
      ((do let (_, kept) ← validation.run []; return kept :
        Collecting ε (List Violation)).run.run collector).2 = collector.recordAll found ∧
      ∀ returned, ((do let (_, kept) ← validation.run []; return kept :
        Collecting ε (List Violation)).run.run collector).1 = .ok returned → returned = found := by
  obtain ⟨found, htest, hstate, hkept⟩ := h [] collector
  refine ⟨found, htest, ?_⟩
  rw [run_bind]
  rcases hrun : (validation.run []).run.run collector with ⟨result, after⟩
  rw [hrun] at hstate hkept
  cases result with
  | error failure => exact ⟨hstate, nofun⟩
  | ok pair =>
    refine ⟨hstate, ?_⟩
    rintro _ ⟨⟩
    exact hkept pair.1 pair.2 rfl

end Actions

section Steps

variable (test : TestCase) (answers : Questions (Except ε)) (fallback : Check.DefaultClass)

theorem hands_settleDefaultClass (defaultClasses : List String) :
    Hands test (settleDefaultClass (answering answers)
      (Validation.report (collected ε) test) defaultClasses) := by
  unfold settleDefaultClass
  cases defaultClasses with
  | nil => exact .pure _
  | cons name rest =>
    have hname : Hands test (do
        let isValid ← (answering answers).typeExists name
        if !isValid then
          if ← (answering answers).isInterface name then
            Validation.report (collected ε) test (.defaultClassIsInterface name)
          else
            Validation.report (collected ε) test (.defaultClassMissing name)
        return { name, isValid } : Keeping ε Check.DefaultClass) :=
      .bind (.ask _) fun _ => .ite
        (.bind (.ask _) fun _ => .ite
          (.bind (hands_report _) fun _ => .pure _) (.bind (hands_report _) fun _ => .pure _))
        (.pure _)
    exact .ite (.bind (hands_report _) fun _ => hname) hname

theorem hands_checkReference (target : String) :
    Hands test (checkReference (answering answers) fallback
      (Validation.report (collected ε) test) target) := by
  unfold checkReference
  have hmember (isConfirmed : Bool) (typeName member : String) : Hands test (do
      if isConfirmed && !member.isEmpty then
        if !(← (answering answers).memberExists typeName member) then
          Validation.report (collected ε) test (.methodMissing typeName member) : Keeping ε Unit) :=
    .ite (.bind (.ask _) fun _ => .ite (hands_report _) (.pure _)) (.pure _)
  -- The target names a type, or a function, or a member of the default class if that is valid.
  refine .ite ?_ (.ite ?_ (.ite ?_ ?_))
  · refine .bind (.ask _) fun _ => .ite (hmember true _ _) (.ite ?_ ?_)
    · exact .bind (hands_report _) fun _ => .pure _
    · refine .bind (.ask _) fun _ => .ite ?_ ?_
      · exact .bind (hands_report _) fun _ => hmember false _ _
      · exact .bind (hands_report _) fun _ => .pure _
  · refine .bind (.ask _) fun _ => .ite ?_ (hmember false _ _)
    exact .bind (hands_report _) fun _ => hmember false _ _
  · exact hmember true _ _
  · exact hmember false _ _

theorem hands_checkTarget (target : String) :
    Hands test (checkTarget (answering answers) fallback
      (Validation.report (collected ε) test) target) := by
  unfold checkTarget
  have href := hands_checkReference test answers fallback target
  exact .ite (.bind (hands_report _) fun _ => .pure _)
    (.ite (.bind (hands_report _) fun _ => href) href)

theorem hands_forM_checkTarget (covers : List String) :
    Hands test (covers.forM (checkTarget (answering answers) fallback
      (Validation.report (collected ε) test))) := by
  induction covers with
  | nil => exact .pure ()
  | cons target rest ih => exact .bind (hands_checkTarget test answers fallback target) fun _ => ih

end Steps

/-- What one validation adds to a collector carries the identifier of its test, and is what the
validation returns, if it does. -/
theorem run_call (call : Call ε) (collector : Collector) :
    ∃ found : List Violation, (∀ violation ∈ found, violation.test = call.test.identifier) ∧
      (call.check.run.run collector).2 = collector.recordAll found ∧
      ∀ returned, (call.check.run.run collector).1 = .ok returned → returned = found := by
  have hands := (hands_settleDefaultClass call.test call.answers
    call.annotations.defaultClasses).bind fun fallback =>
      hands_forM_checkTarget call.test call.answers fallback call.annotations.covers
  exact hands.run_kept collector

/-- What validations add to a collector, one after the other. -/
theorem run_checkAll (calls : List (Call ε)) (collector : Collector) :
    ∃ parts : List (List Violation),
      ((checkAll calls).run collector).2 = collector.recordAll parts.flatten ∧
      List.Forall₂ (fun call part => ∀ violation ∈ part, violation.test = call.test.identifier)
        calls parts ∧
      List.Forall₂ (fun outcome part => ∀ found, outcome = .ok found → found = part)
        ((checkAll calls).run collector).1 parts := by
  induction calls generalizing collector with
  | nil => exact ⟨[], rfl, .nil, .nil⟩
  | cons call rest ih =>
    obtain ⟨found, htest, hstate, hreturned⟩ := run_call call collector
    obtain ⟨parts, hafter, htests, houtcomes⟩ := ih (call.check.run.run collector).2
    refine ⟨found :: parts, ?_, .cons htest htests, .cons hreturned houtcomes⟩
    rw [List.flatten_cons, ← Collector.recordAll_recordAll, ← hstate]
    exact hafter

/-- **Violations are grouped by their tests.** Let validations be made one after the other, of any
tests in any order, by any answers, with one collector as their sink; a validation whose question
fails is cut short, and the next one is made. What each of them adds carries the identifier of its
test, and is what it returns, if it does. Then the groups of the collector are under the distinct
identifiers of the violations, in the order of their first ones. Each group holds the violations of
its identifier in order and is not empty, the groups hold all violations between them, and a report
of the violations counts as many tests with violations as there are groups. -/
theorem checkAll_groups (calls : List (Call ε)) (generatedAt : String) (paths : List String)
    (testsChecked : Int) :
    let result := (checkAll calls).run .empty
    let violations := result.2.violations
    let groups := result.2.byTest
    let identifiers := violations.map Violation.test
    let report : Report := { generatedAt, paths, testsChecked, violations }
    (∃ parts : List (List Violation), violations = parts.flatten ∧
      List.Forall₂ (fun call part => ∀ violation ∈ part, violation.test = call.test.identifier)
        calls parts ∧
      List.Forall₂ (fun outcome part => ∀ found, outcome = .ok found → found = part)
        result.1 parts) ∧
    (groups.keys.Nodup ∧ (∀ identifier, identifier ∈ groups.keys ↔ identifier ∈ identifiers) ∧
      groups.keys.Pairwise fun first second =>
        identifiers.idxOf first < identifiers.idxOf second) ∧
    (∀ identifier group, groups.get? identifier = some group ↔
      identifier ∈ identifiers ∧
        group = violations.filter fun violation => violation.test = identifier) ∧
    (∀ entry ∈ groups.toList, entry.2 ≠ []) ∧
    (groups.toList.map fun entry => entry.2.length).sum = violations.length ∧
    report.summary = .record
      [("tests_checked", .integer testsChecked),
        ("tests_with_violations", .integer groups.keys.length),
        ("violations", .integer violations.length)] := by
  intro result violations groups identifiers report
  obtain ⟨parts, hstate, htests, houtcomes⟩ := run_checkAll calls .empty
  have hgrouped : result.2.Grouped := by
    show ((checkAll calls).run .empty).2.Grouped
    rw [hstate]
    exact Collector.grouped_empty.recordAll _
  have hviolations : violations = parts.flatten := by
    show ((checkAll calls).run .empty).2.violations = _
    rw [hstate, Collector.violations_recordAll]
    rfl
  refine ⟨⟨parts, hviolations, htests, houtcomes⟩,
    ⟨groups.nodup_keys, hgrouped.mem_keys, hgrouped.ordered⟩,
    fun _ _ => hgrouped.get?_eq_some_iff, fun _ => hgrouped.ne_nil, hgrouped.sum_length, ?_⟩
  rw [Report.summary, hgrouped.testsWithViolations_eq rfl]

-- The second test is cut short by its first question; the first one comes again behind it.
example :
    let silent : Questions (Except Unit) :=
      { typeExists := fun _ => .error ()
        isInterface := fun _ => .error ()
        functionExists := fun _ => .error ()
        memberExists := fun _ _ => .error () }
    let call (name : String) (covers : List String) : Call Unit :=
      ⟨silent, { identifier := name, name }, { defaultClasses := [], covers }⟩
    let calls := [call "a" [""], call "b" [" ", "f()", ""], call "a" ["", ""]]
    let result := (checkAll calls).run .empty
    result.1.map (·.toOption.map List.length) = [some 1, none, some 2] ∧
      result.2.byTest.toList.map (fun (key, group) => (key, group.length)) =
        [("a", 3), ("b", 2)] := by
  decide

end Inquiry

end CoverAudit
