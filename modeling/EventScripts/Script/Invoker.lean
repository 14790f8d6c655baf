import EventScripts.Script.Lookup

/-!
# Protected calls from the host

The host calls script functions through `xpcall` and `pcall` as they were when the machine was
opened, so that nothing a script does later changes how its failures are caught. If
`debug.traceback` is a function when a call starts, it is shown the error value and decides what
the failure looks like.
-/

set_option autoImplicit false

namespace EventScripts

namespace Script

/-- The functions for protected calls. -/
structure Invoker where
  xpcall : Function
  pcall : Function

/-- The name of an error value's type. -/
def errorTypeName : Value → String
  | .number (.integer _) => "integer"
  | .fault _ => "error"
  | v => v.typeName

/-- The text of an error value. -/
def describeError : Option Value → String
  | none => ""
  | some .nil => ""
  | some (.string s) => s.lossy
  | some (.number n) => n.bytes.lossy
  | some (.fault f) => f.text
  | some v => "(error object is a " ++ errorTypeName v ++ " value)"

namespace Invoker

/-- The function that is the value of a global variable. -/
def globalFunction (name : String) : Machine Function := do
  match ← getGlobal invoke .outside (textBytes name) with
  | .function f => pure f
  | _ => throw (.fault (.argument "not a function"))

/-- Takes the functions for protected calls from the global variables. -/
def capture : Machine Invoker := do
  let xpcall ← globalFunction "xpcall"
  let pcall ← globalFunction "pcall"
  pure ⟨xpcall, pcall⟩

/-- Reads what a protected call returned. -/
def readResults : List Value → Except String (List Value)
  | .boolean true :: results => .ok results
  | results => .error (describeError results.tail.head?)

/-- Calls a function: its results, or the text of the error that escaped it. -/
def call (inv : Invoker) (f : Function) (args : List Value) :
    Machine (Except String (List Value)) := do
  let protectedCall := match ← lookupFunction "debug.traceback" with
    | some handler => callOutside inv.xpcall (.function f :: .function handler :: args)
    | none => callOutside inv.pcall (.function f :: args)
  match ← orFault protectedCall with
  | .ok results => pure (readResults results)
  | .error f => pure (.error f.text)

end Invoker

end Script

end EventScripts
