import CoverAudit.Proofs.Runner.Amended
import CoverAudit.Runner.Session
import Mathlib.Data.List.Forall2

/-!
# Each test of a session is checked once

A test runner reports up to three phases of a test: its setup, its call if the setup passed, and its
teardown. Which of these reports is the one to check is judged from the report alone, by its phase
and by an outcome that the check itself may overwrite.

* `Amendment.properties_recordAll`: violations are added as properties, one for each, in order.
* `TestRun`: the reports of one test. The call is there exactly when the setup passed.
* `CheckedOnce`: one report of a test carries its violations, and the others are as they were.
* `Session.Collecting`: when coverage counts as being collected.
* `Session.reports_of_run`: what a session does to the reports of one test.
* `Session.receiveAll_checked_once`: what it does to the reports of any sequence of tests.
-/

namespace CoverAudit

/-! ## Properties of an amended report -/

namespace Amendment

theorem properties_record (amendment : Amendment) (violation : Violation) :
    (amendment.record violation).report.properties =
      amendment.report.properties ++ propertiesOf [violation] := by
  simp only [record]
  cases amendment.report.outcome with
  | passed => rfl
  | skipped => rfl
  | failed => cases amendment.ownsExplanation <;> rfl

/-- Whatever a report looks like, it gets one property for each violation, in order. -/
theorem properties_recordAll (amendment : Amendment) (violations : List Violation) :
    (amendment.recordAll violations).report.properties =
      amendment.report.properties ++ propertiesOf violations := by
  induction violations generalizing amendment with
  | nil => exact (List.append_nil _).symm
  | cons violation rest ih =>
    show ((amendment.record violation).recordAll rest).report.properties = _
    rw [ih, properties_record, List.append_assoc]
    rfl

end Amendment

/-! ## The reports of a test -/

/-- What a test runner reports about one test: its setup, its call exactly when the setup passed,
and its teardown, each with any outcome. -/
structure TestRun where
  item : TestItem
  setup : TestReport
  call : Option TestReport
  teardown : TestReport
  setup_phase : setup.phase = .setup
  call_phase : ∀ report ∈ call, report.phase = .call
  teardown_phase : teardown.phase = .teardown
  call_isSome : call.isSome ↔ setup.outcome = .passed

namespace TestRun

/-- The reports of a test, in the order in which they arrive. -/
def reports (run : TestRun) : List TestReport :=
  run.setup :: run.call.toList ++ [run.teardown]

/-- The reports of a test with the test they are about. -/
def events (run : TestRun) : List (TestItem × TestReport) :=
  run.reports.map fun report => (run.item, report)

end TestRun

/-- `checked` is `report` with one property for each violation, in order, behind those it had: the
message, with the test behind it. Without violations it is the report itself. -/
def Carries (report : TestReport) (violations : List Violation) (checked : TestReport) : Prop :=
  checked.properties = report.properties ++ violations.map (fun violation =>
      ("covers_violation", Datum.text (violation.message ++ ": " ++ violation.test))) ∧
    (violations = [] → checked = report)

/-- Exactly one report of a test carries the violations: that of the call if the setup passed, and
that of the setup otherwise. The others are as they were. -/
inductive CheckedOnce (run : TestRun) (violations : List Violation) : List TestReport → Prop where
  | atCall {call checked : TestReport} (passed : run.setup.outcome = .passed)
      (called : run.call = some call) (carries : Carries call violations checked) :
      CheckedOnce run violations [run.setup, checked, run.teardown]
  | atSetup {checked : TestReport} (stopped : run.setup.outcome ≠ .passed)
      (uncalled : run.call = none) (carries : Carries run.setup violations checked) :
      CheckedOnce run violations [checked, run.teardown]

theorem carries_amend (report : TestReport) (violations : List Violation) :
    Carries report violations (report.amend violations) := by
  refine ⟨Amendment.properties_recordAll { report } violations, ?_⟩
  rintro rfl
  rfl

namespace Session

variable {session : Session} {report : TestReport}

/-! ## A session and its reports -/

/-- The violations of an item, by its own annotations. -/
def violationsOf (session : Session) (item : TestItem) : List Violation :=
  Check.violations session.index session.inspect item.annotations item.testCase

theorem violations_complete_test (checker : Checker) (test : TestCase) :
    (checker.complete false (.test test)).violations =
      Check.violations checker.index checker.inspect (checker.annotationsOf test) test := rfl

theorem receive_of_final (hf : report.isFinal = true) (hc : session.isCollecting = false)
    (item : TestItem) :
    (session.receive item report).1 = report.amend (session.violationsOf item) := by
  simp only [receive, hf, hc, if_true, violations_complete_test]
  rfl

theorem receive_of_not_final (hf : report.isFinal = false) (item : TestItem) :
    (session.receive item report).1 = report := by
  simp only [receive, hf]
  rfl

theorem receive_of_collecting (hc : session.isCollecting = true) (item : TestItem)
    (report : TestReport) : (session.receive item report).1 = report := by
  cases hf : report.isFinal with
  | false => exact receive_of_not_final hf item
  | true =>
    simp only [receive, hf, hc]
    rfl

theorem isFinal_of_setup (hp : report.phase = .setup) :
    report.isFinal = decide (report.outcome ≠ .passed) := by
  simp [TestReport.isFinal, hp]

theorem isFinal_of_call (hp : report.phase = .call) : report.isFinal = true := by
  simp [TestReport.isFinal, hp]

theorem isFinal_of_teardown (hp : report.phase = .teardown) : report.isFinal = false := by
  simp [TestReport.isFinal, hp]

/-- The reports that a session hands back for one test. -/
def reportsOf (session : Session) (run : TestRun) : List TestReport :=
  run.reports.map fun report => (session.receive run.item report).1

theorem reportsOf_of_collecting (hc : session.isCollecting = true) (run : TestRun) :
    session.reportsOf run = run.reports := by
  unfold reportsOf
  rw [List.map_congr_left fun report _ => receive_of_collecting hc run.item report, List.map_id']

/-- Which report of a test is checked depends on its setup alone. -/
theorem reports_of_run (hc : session.isCollecting = false) (run : TestRun) :
    CheckedOnce run (session.violationsOf run.item) (session.reportsOf run) := by
  have hteardown : (session.receive run.item run.teardown).1 = run.teardown :=
    receive_of_not_final (isFinal_of_teardown run.teardown_phase) run.item
  cases hcall : run.call with
  | some call =>
    have hpassed : run.setup.outcome = .passed := run.call_isSome.mp (by rw [hcall]; rfl)
    have hsetup : (session.receive run.item run.setup).1 = run.setup :=
      receive_of_not_final (by simp [isFinal_of_setup run.setup_phase, hpassed]) run.item
    have hchecked :
        (session.receive run.item call).1 = call.amend (session.violationsOf run.item) :=
      receive_of_final (isFinal_of_call (run.call_phase call hcall)) hc run.item
    have hreports : session.reportsOf run =
        [run.setup, call.amend (session.violationsOf run.item), run.teardown] := by
      simp [reportsOf, TestRun.reports, hcall, hsetup, hchecked, hteardown]
    rw [hreports]
    exact .atCall hpassed hcall (carries_amend call _)
  | none =>
    have hstopped : run.setup.outcome ≠ .passed := fun h => by
      have := run.call_isSome.mpr h
      rw [hcall] at this
      cases this
    have hchecked : (session.receive run.item run.setup).1 =
        run.setup.amend (session.violationsOf run.item) :=
      receive_of_final (by simp [isFinal_of_setup run.setup_phase, hstopped]) hc run.item
    have hreports : session.reportsOf run =
        [run.setup.amend (session.violationsOf run.item), run.teardown] := by
      simp [reportsOf, TestRun.reports, hcall, hchecked, hteardown]
    rw [hreports]
    exact .atSetup hstopped hcall (carries_amend run.setup _)

theorem reports_receiveAll (session : Session) (runs : List TestRun) :
    (session.receiveAll (runs.flatMap TestRun.events)).map Prod.fst =
      (runs.map session.reportsOf).flatten := by
  induction runs with
  | nil => rfl
  | cons run rest ih =>
    have hrun : (session.receiveAll run.events).map Prod.fst = session.reportsOf run := by
      simp [receiveAll, TestRun.events, reportsOf]
    unfold receiveAll at ih hrun ⊢
    rw [List.flatMap_cons, List.map_append, List.map_append, hrun, ih, List.map_cons,
      List.flatten_cons]

/-- Coverage is being collected: the settings ask to mind it, the test runner can collect it, and
this is not turned off. -/
def Collecting (session : Session) : Prop :=
  session.settings.skipWhenCollecting = true ∧ session.host.coverage = true ∧
    session.host.coverageOff = false

theorem isCollecting_iff : session.isCollecting = true ↔ session.Collecting := by
  simp only [isCollecting, Collecting, Bool.and_eq_true, Bool.not_eq_true']
  tauto

/-- **Every test is checked exactly once.** A session hands back as many reports as it gets, test
by test. While coverage is being collected all of them are as they were. Otherwise exactly one
report of each test carries the violations of the test's own annotations, each once and in order:
the report of the call if the setup passed, and that of the setup otherwise. Every other report of
the test is as it was, that of the teardown always. -/
theorem receiveAll_checked_once (session : Session) (runs : List TestRun) :
    ∃ done : List (List TestReport),
      (session.receiveAll (runs.flatMap TestRun.events)).map Prod.fst = done.flatten ∧
      List.Forall₂ (fun run reports =>
        (session.Collecting → reports = run.reports) ∧
          (¬ session.Collecting → CheckedOnce run
            (Check.violations session.index session.inspect run.item.annotations
              { identifier := run.item.identifier
                name := run.item.name
                className := run.item.class?.map TestItem.Class.name }) reports))
        runs done := by
  refine ⟨runs.map session.reportsOf, reports_receiveAll session runs, ?_⟩
  rw [List.forall₂_map_right_iff, List.forall₂_same]
  intro run _
  rw [← isCollecting_iff, Bool.not_eq_true]
  exact ⟨fun hc => reportsOf_of_collecting hc run, fun hc => reports_of_run hc run⟩

end Session

end CoverAudit
