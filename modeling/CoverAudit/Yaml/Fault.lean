import CoverAudit.Text.Quoted

/-!
# Faults of a YAML document

Why a YAML document has no value. A document that is not well formed is one thing; a scalar that
claims a type it does not have is another, and each such claim fails in its own way.
-/

namespace CoverAudit.Yaml

/-- Why a document has no value. -/
inductive Fault where
  /-- The document breaks a rule of the format, or asks for a value that does not exist. -/
  | malformed
  /-- A number, a date or a character is out of range, or not written as one. -/
  | invalidValue
  /-- A scalar is tagged as a truth value and is none. -/
  | unknownTruthValue (text : String)
  /-- A scalar is tagged as a number and holds no digit. -/
  | emptyNumber
  /-- A scalar is tagged as a timestamp and is none. -/
  | notATimestamp
  /-- A character is given by a code that no machine word holds. -/
  | codeTooLarge
  deriving DecidableEq, Repr

/-- The fault in words. -/
def Fault.message : Fault → String
  | .malformed => "the file is not a well-formed YAML document"
  | .invalidValue => "a value is out of range"
  | .unknownTruthValue text => Text.quoted text
  | .emptyNumber => "string index out of range"
  | .notATimestamp => "'NoneType' object has no attribute 'groupdict'"
  | .codeTooLarge => "signed integer is greater than maximum"

end CoverAudit.Yaml
