/-!
# Log entries

What the parts of an audit have to say besides their results. A part returns its entries; who runs
it decides where they go.
-/

namespace CoverAudit.Log

/-- How much an entry matters. -/
inductive Severity where
  | debug
  | warning
  deriving DecidableEq, Repr

/-- The word for a severity. -/
def Severity.label : Severity → String
  | .debug => "DEBUG"
  | .warning => "WARNING"

/-- The part of the program that speaks. -/
inductive Part where
  | index
  | collection
  | dispatch
  | session
  deriving DecidableEq, Repr

/-- The name under which a part logs. -/
def Part.label : Part → String
  | .index => "covers_check.resolver"
  | .collection => "covers_check.collect"
  | .dispatch => "covers_check.dispatcher"
  | .session => "covers_check.plugin"

/-- One log entry. -/
structure Entry where
  severity : Severity
  part : Part
  message : String
  deriving DecidableEq, Repr

/-- The entry with everything that is known about it. -/
def Entry.verbose (entry : Entry) : String :=
  "[" ++ entry.severity.label ++ "] " ++ entry.part.label ++ ": " ++ entry.message

end CoverAudit.Log
