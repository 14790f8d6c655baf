import EventScripts.Bytes.Utf8
import EventScripts.Json.Reader
import EventScripts.Settings
import EventScripts.Wire.Values

/-!
# Settings files

A settings file is a JSON object of settings. What is left out has its default.
-/

set_option autoImplicit false

namespace EventScripts

open Json

/-- Why settings could not be read. -/
inductive SettingsError where
  /-- There is no file. -/
  | missing
  /-- The file is no text. -/
  | noText
  /-- The text is no settings. -/
  | malformed
  deriving DecidableEq

namespace Settings

/-- Settings in JSON. -/
def toJson (s : Settings String) : Json :=
  .object [("sandbox_script", .ofText? s.sandbox), ("log_directory", .string s.logDirectory),
    ("error_log_file_name", .string s.logFile), ("allow_native_libraries", .bool s.allowNative),
    ("trace_dispatch", .bool s.traceDispatch)]

/-- The names of the settings. -/
def names : List String :=
  ["sandbox_script", "log_directory", "error_log_file_name", "allow_native_libraries",
    "trace_dispatch"]

/-- A field that may be left out. -/
def fieldOr {α : Type} (read : Json → Option α) (default : α) : Option Json → Option α
  | some j => read j
  | none => some default

/-- The settings that JSON denotes. -/
def ofJson? (j : Json) : Option (Settings String) := do
  let defaults : Settings String := .default
  match ← asFields? names j with
  | [sandbox, directory, file, native, trace] =>
    some {
      sandbox := ← fieldOr (asOptional? asText?) defaults.sandbox sandbox
      logDirectory := ← fieldOr asText? defaults.logDirectory directory
      logFile := ← fieldOr asText? defaults.logFile file
      allowNative := ← fieldOr asBool? defaults.allowNative native
      traceDispatch := ← fieldOr asBool? defaults.traceDispatch trace }
  | _ => none

/-- The settings that a text denotes. -/
def ofText (text : String) : Except SettingsError (Settings String) :=
  match (Json.read? text).bind ofJson? with
  | some s => .ok s
  | none => .error .malformed

/-- The settings that the bytes of a file denote, if there is a file. -/
def ofFile (content : Option Bytes) : Except SettingsError (Settings String) :=
  match content with
  | none => .error .missing
  | some bytes => match Bytes.text? bytes with
    | some text => ofText text
    | none => .error .noText

end Settings

end EventScripts
