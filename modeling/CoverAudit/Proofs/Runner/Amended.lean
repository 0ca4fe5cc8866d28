import CoverAudit.Runner.TestReport

/-!
# Reports after any number of violations

What a report looks like after a run of violations. Only the first of them finds the report as the
test left it. When the test had passed or was skipped, the first violation takes the explanation
over, and from then on the report looks like that of a failed test; whose explanation it holds is
known to the amendment alone.

* `recordAll_of_failed`: the report of a test that failed by itself gains sections.
* `recordAll_of_owned`: an explanation that was taken over grows line by line.
* `SkippedBecause`: the reason that a report gives for a test that was skipped.
* `recordAll_report`: the report after one or more violations.
-/

namespace CoverAudit

/-- Text that is glued to the first part may as well be a part of its own. -/
theorem Text.glue_append_cons (sep a b : String) (rest : List String) :
    Text.glue sep ((a ++ sep ++ b) :: rest) = Text.glue sep (a :: b :: rest) := by
  cases rest with
  | nil => rfl
  | cons c rest => simp only [Text.glue, String.append_assoc]

namespace Amendment

variable {report : TestReport}

/-- The properties that hold some violations. -/
def propertiesOf (violations : List Violation) : List (String × Datum) :=
  violations.map fun violation => ("covers_violation", .text violation.text)

/-! ## Tests that failed by themselves -/

theorem record_of_failed (hf : report.outcome = .failed) (before : List Violation)
    (violation : Violation) :
    record ⟨report, before, false⟩ violation =
      ⟨{ report with
          properties := report.properties ++ propertiesOf [violation]
          sections := report.sections ++ [("covers-check", violation.text)] },
        before ++ [violation], false⟩ := by
  simp only [record, hf]
  rfl

/-- A report that explains its own failure gets a section for each violation. -/
theorem recordAll_of_failed (hf : report.outcome = .failed) (before violations : List Violation) :
    recordAll ⟨report, before, false⟩ violations =
      ⟨{ report with
          properties := report.properties ++ propertiesOf violations
          sections := report.sections ++
            violations.map fun violation => ("covers-check", violation.text) },
        before ++ violations, false⟩ := by
  induction violations generalizing report before with
  | nil => simp [recordAll, propertiesOf]
  | cons violation rest ih =>
    show recordAll (record ⟨report, before, false⟩ violation) rest = _
    rw [record_of_failed hf, ih (by exact hf)]
    simp [propertiesOf]

/-! ## Tests that fail because of their violations -/

theorem record_of_owned {text : String} (hf : report.outcome = .failed)
    (he : report.explanation = .text text) (before : List Violation) (violation : Violation) :
    record ⟨report, before, true⟩ violation =
      ⟨{ report with
          properties := report.properties ++ propertiesOf [violation]
          explanation := .text (text ++ "\n" ++ violation.text) },
        before ++ [violation], true⟩ := by
  simp only [record, hf, he]
  rfl

/-- An explanation that consists of violations gets a line for each further one. -/
theorem recordAll_of_owned {text : String} (hf : report.outcome = .failed)
    (he : report.explanation = .text text) (before violations : List Violation) :
    recordAll ⟨report, before, true⟩ violations =
      ⟨{ report with
          properties := report.properties ++ propertiesOf violations
          explanation := .text (Text.glue "\n" (text :: violations.map Violation.text)) },
        before ++ violations, true⟩ := by
  induction violations generalizing report text before with
  | nil => simp [recordAll, propertiesOf, Text.glue, ← he]
  | cons violation rest ih =>
    show recordAll (record ⟨report, before, true⟩ violation) rest = _
    rw [record_of_owned hf he, ih (by exact hf) rfl]
    simp [propertiesOf, Text.glue_append_cons]

/-- The first violation of a test that had passed takes the explanation over. -/
theorem record_of_passed (hp : report.outcome = .passed) (violation : Violation) :
    record { report } violation =
      ⟨{ report with
          outcome := .failed
          explanation := .text violation.text
          expectedFailure := none
          properties := report.properties ++ propertiesOf [violation] },
        [violation], true⟩ := by
  simp only [record, hp]
  rfl

/-- That of a test that was skipped also keeps the reason, which is read off the report before
anything is taken over. -/
theorem record_of_skipped (hs : report.outcome = .skipped) (violation : Violation) :
    record { report } violation =
      ⟨{ report with
          outcome := .failed
          explanation := .text violation.text
          expectedFailure := none
          properties := report.properties ++ propertiesOf [violation]
          sections := report.sections ++ [("covers-check: skip reason", report.skipReason)] },
        [violation], true⟩ := by
  simp only [record, hs]
  rfl

/-! ## The reason of a test that was skipped -/

/-- `reason` is why a test was skipped, by its report: a failure that was expected counts before
everything else, with the words given for it; then the reason in an explanation that is a place, as
a text without quotes; then the explanation itself. -/
inductive SkippedBecause (report : TestReport) : String → Prop where
  | expected (failing : report.expectedFailure = some "") : SkippedBecause report "xfail"
  | expectedFor {why : String} (failing : report.expectedFailure = some why) (said : why ≠ "") :
      SkippedBecause report ("xfail: " ++ why)
  | placed {file line : Datum} {reason : String} {more : List Datum}
      (unexpected : report.expectedFailure = none)
      (explained : report.explanation = .place file line (.text reason) more) :
      SkippedBecause report reason
  | placedObject {file line : Datum} {kind shown plain : String} {more : List Datum}
      (unexpected : report.expectedFailure = none)
      (explained : report.explanation = .place file line (.object kind shown plain) more) :
      SkippedBecause report plain
  | placedValue {file line value : Datum} {more : List Datum}
      (unexpected : report.expectedFailure = none)
      (explained : report.explanation = .place file line value more)
      (notText : ∀ text, value ≠ .text text)
      (notObject : ∀ kind shown plain, value ≠ .object kind shown plain) :
      SkippedBecause report value.shown
  | told {text : String} (unexpected : report.expectedFailure = none)
      (explained : report.explanation = .text text) : SkippedBecause report text
  | formed {plain : String} (unexpected : report.expectedFailure = none)
      (explained : report.explanation = .object plain) : SkippedBecause report plain
  | unexplained (unexpected : report.expectedFailure = none)
      (explained : report.explanation = .absent) : SkippedBecause report "None"

theorem skippedBecause_skipReason (report : TestReport) :
    SkippedBecause report report.skipReason := by
  obtain ⟨outcome, phase, explanation, sections, properties, expectedFailure⟩ := report
  cases expectedFailure with
  | some why =>
    by_cases hwhy : why = ""
    · subst hwhy
      exact .expected rfl
    · have hreason : TestReport.skipReason
          ⟨outcome, phase, explanation, sections, properties, some why⟩ = "xfail: " ++ why := by
        simp [TestReport.skipReason]
      rw [hreason]
      exact .expectedFor rfl hwhy
  | none =>
    cases explanation with
    | absent => exact .unexplained rfl rfl
    | text value => exact .told rfl rfl
    | object plain => exact .formed rfl rfl
    | place file line reason more =>
      cases reason with
      | text reason => exact .placed rfl rfl
      | object kind shown plain => exact .placedObject rfl rfl
      | null => exact .placedValue rfl rfl nofun nofun
      | bool value => exact .placedValue rfl rfl nofun nofun
      | integer value => exact .placedValue rfl rfl nofun nofun
      | decimal mantissa exponent => exact .placedValue rfl rfl nofun nofun
      | list items => exact .placedValue rfl rfl nofun nofun
      | record fields => exact .placedValue rfl rfl nofun nofun

/-- **Reports after violations.** After one or more violations a report is that of a failed test,
and it has one property for each violation, in order, behind those it had. The report of a test
that failed by itself keeps its explanation and whether the failure was expected, and gains one
section for each violation, in order. That of a test that passed or was skipped is explained by the
violations, one on each line, and expects no failure any more; it gains no section if the test
passed, and exactly one, with the reason that the report gave before any violation, if the test was
skipped. A violation reads as its message with the test behind it. All else stays. -/
theorem recordAll_report (report : TestReport) (first : Violation) (rest : List Violation) :
    let violations := first :: rest
    let line := fun violation : Violation => violation.message ++ ": " ++ violation.test
    let done := Amendment.recordAll { report } violations
    let properties := report.properties ++
      violations.map fun violation => ("covers_violation", Datum.text (line violation))
    let explained : TestReport :=
      { report with
        outcome := .failed
        explanation := .text (Text.glue "\n" (violations.map line))
        expectedFailure := none
        properties }
    done.violations = violations ∧ done.report.outcome = .failed ∧
      ∃ reason, SkippedBecause report reason ∧ done.report =
        match report.outcome with
        | .failed =>
          { report with
            properties
            sections := report.sections ++
              violations.map fun violation => ("covers-check", line violation) }
        | .passed => explained
        | .skipped =>
          { explained with
            sections := report.sections ++
              [("covers-check: skip reason", reason)] } := by
  intro violations line done properties explained
  have hreason := skippedBecause_skipReason report
  have hline : Violation.text = line := rfl
  cases ho : report.outcome with
  | failed =>
    have hdone : done = _ := recordAll_of_failed ho [] violations
    rw [hdone]
    exact ⟨rfl, ho, _, hreason, by simp [ho, properties, propertiesOf, hline]⟩
  | passed =>
    have hdone : done = recordAll (record { report } first) rest := rfl
    rw [hdone, record_of_passed ho, recordAll_of_owned rfl rfl]
    refine ⟨rfl, rfl, _, hreason, ?_⟩
    simp [violations, explained, properties, propertiesOf, hline]
  | skipped =>
    have hdone : done = recordAll (record { report } first) rest := rfl
    rw [hdone, record_of_skipped ho, recordAll_of_owned rfl rfl]
    refine ⟨rfl, rfl, _, hreason, ?_⟩
    simp [violations, explained, properties, propertiesOf, hline]

end Amendment

end CoverAudit
