import EventScripts.Engine.Check
import EventScripts.Engine.Execution
import EventScripts.Host.Routines
import EventScripts.Script.Lockdown
import EventScripts.Script.Stock

/-!
# Opening and closing

A new machine gets the routines of the host, the libraries, the lockdown of native modules and
the preloads, in this order; if one of them fails, the engine stays closed. Between the libraries
and the lockdown the index of names is filled, if it has not been filled before. Once the engine
is open, the function `check` and the sandbox script are run; their failures are reported but do
not close it again.
-/

set_option autoImplicit false

namespace EventScripts

open Script

/-- The label of the sandbox script. -/
def sandboxLabel : String := "Sandbox"

namespace Operation

variable {H : Type}

/-- What a machine gets before the index of names is filled. -/
def firstSteps [Host H] (host : Option H) (selection : Selection) : Machine Unit := do
  match host with
  | some h => Host.register h
  | none => pure ()
  selection.openAll

/-- What a machine gets after the index of names has been filled. -/
def lastSteps (allowNative : Bool) (selection : Selection) : Machine Invoker := do
  lockNativeModules allowNative
  selection.installPreloads
  Invoker.capture

/-- Fills the index of names from a machine, unless it has been filled. -/
def populateIndex (vm : Vm) : OperationOn H Unit := do
  let (index, filled) := (← get).index.populate vm
  modify fun s => { s with index }
  if filled then
    match index.names with
    | some names => writeLog names.line
    | none => pure ()

variable [Host H]

/-- Makes a machine: the machine with the functions for protected calls, or what went wrong. -/
def prepare : OperationOn H (Except ScriptError Live) := do
  let s ← get
  let (first, vm) ← runOn .fresh (orFault (firstSteps s.around.host s.engine.selection))
  match first with
  | .ok (.ok ()) =>
    populateIndex vm
    let (last, vm) ← runOn vm
      (orFault (lastSteps s.engine.settings.allowNative s.engine.selection))
    match last with
    | .ok (.ok invoker) => pure (.ok ⟨vm, invoker⟩)
    | .ok (.error fault) => pure (.error (.vm fault))
    | .error e => pure (.error (.vm (.runtime (describeError (some e)))))
  | .ok (.error fault) => pure (.error (.vm fault))
  | .error e => pure (.error (.vm (.runtime (describeError (some e)))))

/-- Runs the sandbox script, if there is one, under an origin of its own. -/
def runSandbox : OperationOn H Unit := do
  let engine := (← get).engine
  match engine.settings.sandbox, engine.live with
  | some source, some live =>
    inScope do
      onAround (·.setOrigin .sandbox)
      discard (runSource live source sandboxLabel)
  | _, _ => pure ()

/-- Gives the engine a machine that has been made, and runs the first scripts in it. -/
def install (live : Live) : OperationOn H Unit := do
  onEngine fun e => { e with live := some live, generation := e.generation + 1 }
  writeLog (.info "[scripting] engine opened")
  discard (execute Check.source Check.label)
  runSandbox

/-- Opens the engine. Opening one that is open does nothing. -/
def openEngine : OperationOn H (Except ScriptError Unit) := do
  if (← get).engine.isOpen then pure (.ok ())
  else match ← prepare with
    | .error e => pure (.error e)
    | .ok live =>
      install live
      pure (.ok ())

/-- Closes the engine. -/
def close : OperationOn H Unit := do
  if (← get).engine.isOpen then
    onEngine fun e => { e with live := none }
    writeLog (.info "[scripting] engine closed")

/-- Closes the engine and opens it again. -/
def reset : OperationOn H (Except ScriptError Unit) := do
  close
  openEngine

/-- Attaches a host; the one that was attached before. -/
def attach (h : H) : OperationOn H (Option H) := do
  let before := (← get).around.host
  onAround ({ · with host := some h })
  pure before

/-- Detaches the host; the one that was attached. -/
def detach : OperationOn H (Option H) := do
  let before := (← get).around.host
  onAround ({ · with host := none })
  pure before

/-- Puts the routines of a document into the machine of an open engine. -/
def provideOpen : OperationOn H Unit := do
  match (← get).engine.live with
  | none => pure ()
  | some live =>
    let (_, vm) ← runOn live.vm (provideRoutines hostRoutines)
    putVm vm

end Operation

end EventScripts
