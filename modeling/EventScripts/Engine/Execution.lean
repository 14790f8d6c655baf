import EventScripts.Engine.Session
import EventScripts.Script.Compile

/-!
# Running sources

A source is loaded under a label and run in a protected call. One that does not load is reported
and nothing of it runs; one that fails is reported too.
-/

set_option autoImplicit false

namespace EventScripts

open Script

namespace Operation

variable {H : Type}

/-- Puts a machine back into the engine. -/
def putVm (vm : Vm) : OperationOn H Unit :=
  onEngine fun e => { e with live := e.live.map fun live => { live with vm } }

variable [Host H]

/-- Makes a protected call in the machine of an engine. -/
def runProtected (live : Live) (m : Machine (Except String (List Value))) :
    OperationOn H (Except String (List Value)) := do
  let (answer, vm) ← runOn live.vm m
  putVm vm
  match answer with
  | .ok answer => pure answer
  | .error e => pure (.error (describeError (some e)))

/-- Calls a function of a source that has been loaded. -/
def callCode (live : Live) (code : Code) : OperationOn H (Except String (List Value)) :=
  runProtected live do
    match ← Machine.newFunction (.script code) with
    | .function f => live.invoker.call f []
    | _ => pure (.ok [])

/-- What the run of a source comes to: the counts and the host learn how it went. -/
def concludeSource (label : String) :
    Except String (List Value) → OperationOn H (Except ScriptError Unit)
  | .error message => do
    count fun s => { s with runtimeErrors := s.runtimeErrors + 1 }
    report runtimeEvent none message
    pure (.error (.runtime label message))
  | .ok _ => do
    onAround (·.onHost Host.addTime)
    pure (.ok ())

/-- Loads a source under a label and runs it in a machine. -/
def runSource (live : Live) (source : List Step) (label : String) :
    OperationOn H (Except ScriptError Unit) := do
  match load (textBytes label) source with
  | .error e =>
    count fun s => { s with compileErrors := s.compileErrors + 1 }
    report compileEvent none e.message
    pure (.error (.compile label e.message))
  | .ok code =>
    count fun s => { s with protectedCalls := s.protectedCalls + 1 }
    concludeSource label (← callCode live code)

/-- Loads a source under a label and runs it. -/
def execute (source : List Step) (label : String) : OperationOn H (Except ScriptError Unit) := do
  match (← get).engine.live with
  | none => pure (.error .closed)
  | some live => runSource live source label

end Operation

end EventScripts
