import EventScripts.Script.Fault

/-!
# Errors of the engine

What the engine answers when it does not do what it was asked to.
-/

set_option autoImplicit false

namespace EventScripts

/-- Why the engine did not do what it was asked to. -/
inductive ScriptError where
  /-- There is no machine. -/
  | closed
  /-- A source did not load. -/
  | compile (label message : String)
  /-- A protected call failed. -/
  | runtime (label message : String)
  /-- A name is missing or no function. -/
  | resolution (name : String)
  /-- The machine failed outside of a protected call. -/
  | vm (fault : Fault)
  /-- Settings could not be read. -/
  | config (message : String)
  /-- A file could not be read. -/
  | file (message : String)
  deriving DecidableEq

/-- The message of an error. -/
def ScriptError.message : ScriptError → String
  | .closed => "script engine is not open"
  | .compile label message => "compile error in " ++ label ++ ": " ++ message
  | .runtime label message => "run-time error in " ++ label ++ ": " ++ message
  | .resolution name => "function '" ++ name ++ "' not found or not callable"
  | .vm fault => "lua: " ++ fault.display
  | .config message => "invalid configuration: " ++ message
  | .file message => message

end EventScripts
