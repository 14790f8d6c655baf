import EventScripts.Engine.Session
import EventScripts.Wire.Requests

/-!
# JSON forms of reports

What an engine has told its surroundings, in JSON: records of failures, dialogs, lines of the
console and of the log, notes and counts.
-/

set_option autoImplicit false

namespace EventScripts

open Script

/-- An optional value in JSON. -/
def Json.ofOption {α : Type} (write : α → Json) : Option α → Json
  | some a => write a
  | none => .null

/-- A list of values in JSON. -/
def Json.ofList {α : Type} (write : α → Json) (as : List α) : Json := .array (as.map write)

/-- Members whose lists are not empty. -/
def Json.filled {α : Type} (name : String) (write : α → Json) (as : List α) :
    List (String × Json) :=
  if as.isEmpty then [] else [(name, .ofList write as)]

namespace Failure

/-- A record of a failure in JSON. -/
def toJson (f : Failure) : Json :=
  .object [("event", .string f.event), ("context", .ofOption CallContext.toJson f.context),
    ("raised_by", .string f.raisedBy), ("called_by", .string f.calledBy),
    ("description", .string f.description), ("line", .ofOption Json.natural f.line),
    ("line_attributable", .bool f.isLineAttributable)]

end Failure

namespace Dialog

/-- A dialog in JSON. -/
def toJson (d : Dialog) : Json :=
  .object [("record", d.failure.toJson), ("have_host", .bool d.haveHost)]

end Dialog

namespace ConsoleLine

/-- A line of the console in JSON. -/
def toJson (l : ConsoleLine) : Json :=
  .array [.natural l.fore.toNat, .natural l.back.toNat, .string l.text]

end ConsoleLine

namespace Severity

/-- The name of a severity in the log. -/
def name : Severity → String
  | .error => "ERROR"
  | .warning => "WARN"
  | .info => "INFO"
  | .debug => "DEBUG"

end Severity

namespace LogLine

/-- A line of the log in JSON. -/
def toJson (l : LogLine) : Json := .string (l.severity.name ++ " " ++ l.text)

end LogLine

namespace Note

/-- A note in JSON. -/
def toJson (n : Note) : Json :=
  .object (("args", .ofList Snapshot.toJson n.values) :: match n.current with
    | some (o, s) => [("source", o.toJson), ("style", s.toJson)]
    | none => [])

end Note

namespace Stats

/-- Counts in JSON. -/
def toJson (s : Stats) : Json :=
  .ofList Json.natural [s.protectedCalls, s.runtimeErrors, s.compileErrors, s.resolutionFailures,
    s.skipped]

end Stats

namespace Scalar

/-- What the host reads off a result, in JSON. -/
def reading (s : Scalar) : Json :=
  .object [("value", match s with
      | .boolean b => .bool b
      | .number x => .object [("num", .ofDouble x)]),
    ("truthy", .bool s.isTruthy), ("number", .ofDouble s.asNumber)]

end Scalar

end EventScripts
