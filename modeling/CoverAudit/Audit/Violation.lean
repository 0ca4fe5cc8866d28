/-!
# Violations

What may be wrong with the coverage annotations of a test, in words, and attributed to the test.

* `Problem.exists_message_eq`: a problem reads as the annotation that it is about, with what is at
  fault there.
-/

namespace CoverAudit

/-- What is wrong with an annotation. -/
inductive Problem where
  /-- More than one default class is declared. -/
  | manyDefaultClasses
  | defaultClassIsInterface (name : String)
  | defaultClassMissing (name : String)
  | emptyTarget
  /-- A target has parentheses behind a name. -/
  | parentheses
  /-- A target names no class, and nothing says which member it means. -/
  | noSeparator (target : String)
  | typeIsInterface (name : String)
  | typeMissing (name : String)
  | functionMissing (name : String)
  | methodMissing (type member : String)
  deriving DecidableEq, Repr

/-- The problem in words. -/
def Problem.message : Problem → String
  | .manyDefaultClasses => "@coversDefaultClass has too many values"
  | .defaultClassIsInterface name =>
    "@coversDefaultClass refers to an interface '" ++ name ++ "' and those can not be tested."
  | .defaultClassMissing name => "@coversDefaultClass does not exist '" ++ name ++ "'"
  | .emptyTarget => "@covers should not be empty"
  | .parentheses => "@covers invalid syntax: Do not use '()'"
  | .noSeparator target =>
    "@covers invalid syntax: Needs '::' or class does not exist in " ++ target
  | .typeIsInterface name =>
    "@covers refers to an interface '" ++ name ++ "' and those can not be tested."
  | .typeMissing name => "@covers class does not exist " ++ name
  | .functionMissing name => "@covers global method does not exist " ++ name
  | .methodMissing type member => "@covers method does not exist " ++ type ++ "::" ++ member

/-- The annotation that a problem is about, as it is written. -/
def Problem.tag : Problem → String
  | .manyDefaultClasses => "@coversDefaultClass"
  | .defaultClassIsInterface _ => "@coversDefaultClass"
  | .defaultClassMissing _ => "@coversDefaultClass"
  | _ => "@covers"

/-- What is at fault in an annotation; nothing, when it is how the annotation is written. -/
def Problem.culprit : Problem → String
  | .manyDefaultClasses | .emptyTarget | .parentheses => ""
  | .defaultClassIsInterface name | .defaultClassMissing name => name
  | .noSeparator target => target
  | .typeIsInterface name | .typeMissing name | .functionMissing name => name
  | .methodMissing type member => type ++ "::" ++ member

/-- A problem reads as the annotation that it is about, with what is at fault there. -/
theorem Problem.exists_message_eq (problem : Problem) : ∃ opening closing,
    problem.message = problem.tag ++ " " ++ opening ++ problem.culprit ++ closing := by
  cases problem with
  | manyDefaultClasses => exact ⟨"has too many values", "", by decide +kernel⟩
  | emptyTarget => exact ⟨"should not be empty", "", by decide +kernel⟩
  | parentheses => exact ⟨"invalid syntax: Do not use '()'", "", by decide +kernel⟩
  | defaultClassIsInterface name =>
    exact ⟨"refers to an interface '", "' and those can not be tested.", rfl⟩
  | defaultClassMissing name => exact ⟨"does not exist '", "'", rfl⟩
  | noSeparator target =>
    exact ⟨"invalid syntax: Needs '::' or class does not exist in ", "", String.append_empty.symm⟩
  | typeIsInterface name =>
    exact ⟨"refers to an interface '", "' and those can not be tested.", rfl⟩
  | typeMissing name => exact ⟨"class does not exist ", "", String.append_empty.symm⟩
  | functionMissing name => exact ⟨"global method does not exist ", "", String.append_empty.symm⟩
  | methodMissing type member =>
    refine ⟨"method does not exist ", "", ?_⟩
    rw [String.append_empty, culprit, ← String.append_assoc, ← String.append_assoc]
    rfl

/-- A problem of a test, in words. -/
structure Violation where
  message : String
  /-- The identifier of the test. -/
  test : String
  deriving DecidableEq, Repr

/-- The violation with the test it belongs to. -/
def Violation.text (violation : Violation) : String :=
  violation.message ++ ": " ++ violation.test

end CoverAudit
