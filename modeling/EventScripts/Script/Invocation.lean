import EventScripts.Script.Evaluation
import EventScripts.Script.Native

/-!
# Calling functions

`invokeTo` ties evaluation and native functions together: whatever they call is called in turn, up
to a depth at which calls fail. `invoke` is the same with the depth every machine has.
-/

set_option autoImplicit false

namespace EventScripts

namespace Script

/-- Calls a function; the first argument bounds how deep calls go. -/
def invokeTo : Nat → Caller
  | 0, site, _, _ => site.fail (textBytes "stack overflow")
  | depth + 1, site, f, args =>
    if site.nested = nestedLimit then site.fail (textBytes "C stack overflow")
    else if nestedReserve ≤ site.nested then throw handlingFailed
    else match f.body with
      | .script code => code.run (invokeTo depth) site args
      | .native n => n.run (invokeTo depth) site args

/-- How deep calls go. -/
def depthLimit : Nat := 1000

/-- Calls a function. -/
def invoke : Caller := invokeTo depthLimit

/-- Calls a function from outside the machine. -/
def callOutside (f : Function) (args : List Value) : Machine (List Value) :=
  invoke .outside f args

/-- The fault that a computation ends with, for those outside the machine. -/
def orFault {α : Type} (m : Machine α) : Machine (Except Fault α) := do
  match ← Machine.outcome m with
  | .ok a => pure (.ok a)
  | .error e => return .error (← faultOf invoke .outside e)

end Script

end EventScripts
