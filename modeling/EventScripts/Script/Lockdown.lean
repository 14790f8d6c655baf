import EventScripts.Script.Invocation

/-!
# Locking native modules out

Scripts must not load native code unless the settings allow it: `package.loadlib` goes, the path
of native modules becomes empty, and the two searchers for native modules, the third and the
fourth, are taken off the list of searchers.
-/

set_option autoImplicit false

namespace EventScripts

namespace Script

/-- Moves the values behind a place of a list one place forward. The first argument is the number
of values to move. -/
def moveForward (ref : Nat) : Nat → Nat → Machine Unit
  | 0, _ => pure ()
  | count + 1, i => do
    let v ← Machine.rawGet ref (.integer (Int64.ofNat (i + 1)))
    Machine.rawSet ref (.integer (Int64.ofNat i)) v
    moveForward ref count (i + 1)

/-- Takes the value at a place out of a list. -/
def removeAt (ref i : Nat) : Machine Unit := do
  let size := ((← get).table ref).length
  if size < i then throw (.fault (.runtime "index out of bounds"))
  else
    moveForward ref (size - i) i
    Machine.rawSet ref (.integer (Int64.ofNat size)) .nil

/-- Takes the searchers for native modules off a list of searchers. -/
def removeNativeSearchers (ref : Nat) : Machine Unit := do
  let size := min ((← get).table ref).length 4
  if 4 ≤ size then removeAt ref 4
  if 3 ≤ size then removeAt ref 3

/-- Locks native modules out, unless they are allowed. -/
def lockNativeModules (allowed : Bool) : Machine Unit := do
  if allowed then pure ()
  else match ← getGlobal invoke .outside (textBytes "package") with
    | .table ref =>
      let package := Value.table ref
      Machine.setIndex invoke .outside none package (.text "loadlib") .nil
      Machine.setIndex invoke .outside none package (.text "cpath") (.text "")
      match ← Machine.index invoke .outside none package (.text "searchers") with
      | .table searchers => removeNativeSearchers searchers
      | _ => pure ()
      Machine.emit (.log (.debug "[scripting] native module loading disabled"))
    | _ => pure ()

end Script

end EventScripts
