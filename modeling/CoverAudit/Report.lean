import CoverAudit.Audit.Violation
import CoverAudit.Report.JsonValue

/-!
# Reports

The result of an audit as it is handed on: every violation with its test, and what they add up to.
-/

namespace CoverAudit

/-- What an audit found. -/
structure Report where
  /-- When the report was made, as text. -/
  generatedAt : String
  /-- Where tests were looked for. -/
  paths : List String
  testsChecked : Int
  violations : List Violation

namespace Report

/-- The number of tests that have a violation. -/
def testsWithViolations (report : Report) : Nat :=
  (report.violations.map Violation.test).eraseDups.length

/-- A violation as part of a report. -/
def violationValue (violation : Violation) : JsonValue :=
  .record [("test", .text violation.test), ("message", .text violation.message)]

/-- What the violations add up to. -/
def summary (report : Report) : JsonValue :=
  .record
    [("tests_checked", .integer report.testsChecked),
      ("tests_with_violations", .integer report.testsWithViolations),
      ("violations", .integer report.violations.length)]

/-- The fields of a report, in order. -/
def fields (report : Report) : List (String × JsonValue) :=
  [("report_type", .text "covers_check"),
    ("generated_at", .text report.generatedAt),
    ("paths", .list (report.paths.map .text)),
    ("summary", report.summary),
    ("violations", .list (report.violations.map violationValue))]

/-- The report as JSON. -/
def value (report : Report) : JsonValue :=
  .record report.fields

end Report

end CoverAudit
