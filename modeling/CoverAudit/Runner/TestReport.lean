import CoverAudit.Audit.Violation
import CoverAudit.Datum
import CoverAudit.Text.Split

/-!
# Reports of a test run

What a test runner reports about one phase of a test, and how violations are added to it. A test
that passed or was skipped fails because of its violations and is explained by them; a test that
failed keeps its own explanation and gets a section for each violation.

* `Amendment.record`: adds one violation.
-/

namespace CoverAudit

/-- How a phase of a test ended. -/
inductive Outcome where
  | passed
  | failed
  | skipped
  deriving DecidableEq, Repr

/-- The phases of a test. -/
inductive Phase where
  | setup
  | call
  | teardown
  deriving DecidableEq, Repr

/-- The explanation of an outcome. -/
inductive Explanation where
  | absent
  | text (value : String)
  /-- A place in the tests, the reason given there, and what else was given with it. -/
  | place (file line reason : Datum) (more : List Datum)
  /-- An explanation in a form of its own, by its text. -/
  | object (plain : String)
  deriving Repr

/-- What a test runner reports about one phase of a test. -/
structure TestReport where
  outcome : Outcome := .passed
  phase : Phase := .call
  explanation : Explanation := .absent
  /-- Further texts, with their titles. -/
  sections : List (String × String) := []
  properties : List (String × Datum) := []
  /-- Why the test was expected to fail, if it was. -/
  expectedFailure : Option String := none
  deriving Repr

/-- An explanation as a text of its own. -/
def Explanation.plain : Explanation → String
  | .absent => Datum.null.shown
  | .text value => value
  | .place file line reason more =>
    "(" ++ Text.glue ", " ((file :: line :: reason :: more).map Datum.shown) ++ ")"
  | .object plain => plain

namespace TestReport

/-- The title of sections about violations. -/
def sectionTitle : String := "covers-check"

/-- The title of the section that keeps why a test was skipped. -/
def skipTitle : String := sectionTitle ++ ": skip reason"

/-- The property that holds a violation. -/
def violationProperty : String := "covers_violation"

/-- Why a test was skipped. An expected failure counts as skipped. -/
def skipReason (report : TestReport) : String :=
  match report.expectedFailure, report.explanation with
  | some "", _ => "xfail"
  | some reason, _ => "xfail: " ++ reason
  | none, .place _ _ reason _ => reason.plain
  | none, explanation => explanation.plain

/-- Whether a report is the last one before the teardown of its test: that of the call, or that of
the setup when it did not pass. -/
def isFinal (report : TestReport) : Bool :=
  report.phase = .call || (report.phase = .setup && report.outcome ≠ .passed)

end TestReport

/-- A report to which violations are added. -/
structure Amendment where
  report : TestReport
  /-- The violations added so far. -/
  violations : List Violation := []
  /-- Whether the explanation consists of violations. -/
  ownsExplanation : Bool := false

namespace Amendment

/-- Adds a violation to a report. -/
def record (amendment : Amendment) (violation : Violation) : Amendment :=
  let text := violation.text
  let violations := amendment.violations ++ [violation]
  let report : TestReport :=
    { amendment.report with
      properties :=
        amendment.report.properties ++ [(TestReport.violationProperty, .text text)] }
  let takenOver : TestReport :=
    { report with
      outcome := .failed
      explanation := .text text
      expectedFailure := none }
  match report.outcome with
  | .passed => { report := takenOver, violations, ownsExplanation := true }
  | .skipped =>
    { report :=
        { takenOver with
          sections := report.sections ++ [(TestReport.skipTitle, report.skipReason)] }
      violations
      ownsExplanation := true }
  | .failed =>
    if amendment.ownsExplanation then
      { report :=
          { report with explanation := .text (report.explanation.plain ++ "\n" ++ text) }
        violations
        ownsExplanation := true }
    else
      { report :=
          { report with sections := report.sections ++ [(TestReport.sectionTitle, text)] }
        violations }

/-- Adds violations to a report, in order. -/
def recordAll (amendment : Amendment) (violations : List Violation) : Amendment :=
  violations.foldl record amendment

end Amendment

/-- The report with violations added to it. -/
def TestReport.amend (report : TestReport) (violations : List Violation) : TestReport :=
  (Amendment.recordAll { report } violations).report

end CoverAudit
