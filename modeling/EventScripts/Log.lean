/-!
# Lines of the diagnostic log

The engine and its libraries tell what they do in single lines, each with a severity. The host
decides where they go.
-/

set_option autoImplicit false

namespace EventScripts

/-- How much a line of the log matters. -/
inductive Severity where
  | error
  | warning
  | info
  | debug
  deriving DecidableEq

/-- A line of the log. -/
structure LogLine where
  severity : Severity
  text : String
  deriving DecidableEq

namespace LogLine

/-- A line for those who look for the cause of a fault. -/
def debug (text : String) : LogLine := ⟨.debug, text⟩

/-- A line about something that works but is not as it should be. -/
def warning (text : String) : LogLine := ⟨.warning, text⟩

/-- A line about a change of the engine's state. -/
def info (text : String) : LogLine := ⟨.info, text⟩

/-- A line about a failure. -/
def error (text : String) : LogLine := ⟨.error, text⟩

end LogLine

end EventScripts
