/-!
# Settings of the engine

Each setting has a default. Scripts are of any type here: a text in a settings file, a source in
an engine.
-/

set_option autoImplicit false

namespace EventScripts

/-- A path to a file in a directory. A file name that is itself absolute stands alone. -/
def joinPath (directory file : String) : String :=
  if file.startsWith "/" then file
  else if directory.isEmpty then file
  else if directory.endsWith "/" then directory ++ file
  else directory ++ "/" ++ file

/-- The settings of an engine. -/
structure Settings (Source : Type) where
  /-- A script that runs in every new machine, under an origin of its own. -/
  sandbox : Option Source
  /-- The directory of the error log. -/
  logDirectory : String
  /-- The file of the error log in its directory. -/
  logFile : String
  /-- Scripts may load native modules. -/
  allowNative : Bool
  /-- Dispatches are traced to the host. -/
  traceDispatch : Bool

namespace Settings

/-- The file name of the error log. -/
def defaultLogFile : String := "script_error_log.txt"

/-- The defaults. -/
def default {Source : Type} : Settings Source := ⟨none, ".", defaultLogFile, false, true⟩

/-- The path of the error log. -/
def logPath {Source : Type} (s : Settings Source) : String := joinPath s.logDirectory s.logFile

end Settings

end EventScripts
