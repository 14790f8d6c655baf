import EventScripts.Script.Machine

/-!
# Call sites

A call site tells from where a function is called: the frames around, what the callee is called
there, and how often the machine has been entered anew on the way, which happens for every call
that native code or a metatable makes. Messages get the position of a frame in front, if that
frame is one of a script.
-/

set_option autoImplicit false

namespace EventScripts

namespace Script

/-- A place in a source: where a frame of a script is. -/
structure Place where
  chunk : Bytes
  line : Nat

/-- What an expression is called in messages: a kind of variable and a name. -/
structure Naming where
  kind : String
  name : Bytes

/-- The part of a message that names the expression, empty if it has no name. A name ends at its
first NUL. -/
def Naming.suffix : Option Naming → Bytes
  | none => []
  | some n => textBytes (" (" ++ n.kind ++ " '") ++ n.name.untilNul ++ textBytes "')"

/-- From where a function is called. -/
structure Site where
  /-- The frames around, innermost first, `none` for a native one. -/
  trail : List (Option Place)
  /-- What the callee is called. -/
  naming : Option Naming
  /-- How often the machine has been entered anew. -/
  nested : Nat

/-- How functions are called. -/
abbrev Caller := Site → Function → List Value → Machine (List Value)

namespace Site

/-- A call from outside the machine. -/
def outside : Site := ⟨[], none, 1⟩

/-- The position of a frame, counted from one, as it stands in front of messages; empty if the
frame is native or does not exist. -/
def position (site : Site) (level : Nat) : Bytes :=
  match level with
  | 0 => []
  | level + 1 => match site.trail[level]? with
    | some (some p) => positionText p.chunk p.line
    | _ => []

/-- Ends with a message, the position of the innermost frame in front. -/
def fail {α : Type} (site : Site) (message : Bytes) : Machine α :=
  throw (.string (site.position 1 ++ message))

/-- A call that native code, called from here, makes itself. -/
def inner (site : Site) : Site := ⟨none :: site.trail, none, site.nested + 1⟩

/-- A call that a metatable asks for on an event. -/
def onEvent (site : Site) (event : String) : Site :=
  ⟨site.trail, some ⟨"metamethod", textBytes event⟩, site.nested + 1⟩

end Site

end Script

end EventScripts
