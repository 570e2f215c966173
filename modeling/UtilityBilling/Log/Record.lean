/-
# Log records

Conditions that the user may have to know about are logged with a severity. A
record is written as its severity and its message.
-/

namespace UtilityBilling.Log

/-- How grave a record is. -/
inductive Severity where
  | warning
  | error
  deriving DecidableEq, Repr

/-- The word of a severity. -/
def Severity.word : Severity → String
  | .warning => "WARN"
  | .error => "ERROR"

/-- A record of the log. -/
structure Record where
  severity : Severity
  message : String
  deriving DecidableEq, Repr

/-- The line of a record. -/
def Record.line (record : Record) : String :=
  record.severity.word ++ " " ++ record.message

/-- A warning. -/
def warning (message : String) : Record := ⟨.warning, message⟩

/-- An error. -/
def error (message : String) : Record := ⟨.error, message⟩

end UtilityBilling.Log
