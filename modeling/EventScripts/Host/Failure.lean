import EventScripts.Dispatch.Request
import EventScripts.Host.ErrorLine
import EventScripts.Host.Interface
import EventScripts.Log

/-!
# Records of failures

What is told about a failure, wherever it is shown: what happened, who asked for the call, on whose
behalf, the text of the error and the line that it blames.
-/

set_option autoImplicit false

namespace EventScripts

/-- What is called a source that does not load. -/
def compileEvent : String := "Compile error"

/-- What is called a call that fails. -/
def runtimeEvent : String := "Run-time error"

/-- A record of a failure. -/
structure Failure where
  event : String
  context : Option CallContext
  raisedBy : String
  calledBy : String
  description : String
  line : Option Nat
  /-- When it happened, as it is written in the error log. -/
  date : String
  deriving DecidableEq

namespace Failure

variable {H : Type} [Host H]

/-- On whose behalf the failing script ran. -/
def raisedByText : Option H → String
  | none => "No active world"
  | some h => match Host.plugin h with
    | some plugin => "Plugin: " ++ plugin ++ " (called from world: " ++ Host.world h ++ ")"
    | none => "World: " ++ Host.world h

/-- Who asked for the call. -/
def calledByText : Option CallContext → String
  | none => "Immediate execution"
  | some c =>
    if c.procedure.isEmpty then "Immediate execution"
    else "Function/Sub: " ++ c.procedure ++ " called by " ++ c.kind ++ "\nReason: " ++ c.reason

/-- The record of a failure. -/
def new (event : String) (context : Option CallContext) (description : String)
    (host : Option H) (date : String := "") : Failure where
  event := event
  context := context
  raisedBy := raisedByText host
  calledBy := calledByText context
  description := description
  line := errorLine? description
  date := date

/-- Whether the failure blames a line of a source that can be edited. -/
def isLineAttributable (f : Failure) : Bool := f.line.isSome

/-- The lines in which the console shows a failure. -/
def consoleTexts (f : Failure) : List String :=
  [f.event, f.raisedBy, f.calledBy, f.description]

/-- The line in which the log shows a failure. -/
def logLine (f : Failure) : LogLine :=
  .error ("[scripting] " ++ f.event ++ " | " ++ f.raisedBy ++ " | "
    ++ String.ofList (f.calledBy.toList.map fun c => if c == '\n' then ' ' else c) ++ " | "
    ++ f.description)

/-- The block that a failure becomes in the error log: a dated header, the texts each on a line of
its own, and the lines of the source around the blamed one. -/
def logBlock (f : Failure) (host : H) : String :=
  "\n\n--- Scripting error on " ++ f.date ++ " ---\n\n"
    ++ String.join (f.consoleTexts.map (· ++ "\n"))
    ++ match f.line with
      | some line => Host.errorLinesText host line
      | none => ""

end Failure

end EventScripts
