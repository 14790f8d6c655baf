import EventScripts.Files.Request
import EventScripts.Log
import EventScripts.Script.Compile
import EventScripts.Script.Fault
import EventScripts.Script.Snapshot

/-!
# Routines and openers

A routine is what the host has done in a machine by code of its own. It makes tables and functions,
reads and sets fields, and calls what it finds; the values that it comes to have it keeps in a row,
the latest one last. Of these values it sees what can be seen from outside the machine, and this
decides how it goes on. So a routine is a tree: what is done first, and for each way in which that
can turn out the routine that follows.

The opener of a library is a routine without arguments and results.
-/

set_option autoImplicit false

namespace EventScripts

namespace Script

/-- A field of a table that a host provides. -/
inductive Provision where
  | text (s : Bytes)
  | routine
  deriving DecidableEq

/-- A value that a routine uses. -/
inductive Operand where
  | nil
  | boolean (b : Bool)
  | number (n : Number)
  | text (s : Bytes)
  /-- The table of the global variables. -/
  | globals
  /-- One of the values that the routine has, by its place in the row. -/
  | held (place : Nat)

/-- What a routine has done in a machine. -/
inductive Errand where
  /-- Makes a table of the given fields. -/
  | newTable (fields : List (Bytes × Provision))
  /-- Makes a function of a script. -/
  | load (code : Code)
  | get (table key : Operand)
  | set (table key value : Operand)
  | rawGet (table key : Operand)
  | rawSet (table key value : Operand)
  /-- Gives a table a metatable, or none. -/
  | setMetatable (table metatable : Operand)
  | call (f : Operand) (args : List Operand)
  | log (line : LogLine)

/-- A routine of the host. -/
inductive Routine where
  | finish (results : List Operand)
  | fail (f : Fault)
  /-- Makes a function of a routine. -/
  | make (body next : Routine)
  /-- Goes on by what is seen of the results. A failure ends the routine. -/
  | run (e : Errand) (next : List Snapshot → Routine)
  /-- Goes on after a failure too. -/
  | attempt (e : Errand) (next : Except Fault (List Snapshot) → Routine)
  /-- Makes a request to the files. -/
  | ask (q : FileRequest) (next : FileAnswer → Routine)

/-- How a library that the host supplies is opened. -/
abbrev Opener := Routine

namespace Opener

/-- Does nothing. -/
def nothing : Opener := .finish []

/-- Fails with a message. -/
def failure (message : String) : Opener := .fail (.runtime message)

/-- Makes a table of the given fields the value of a global variable. -/
def table (name : Bytes) (fields : List (Bytes × Provision)) : Opener :=
  .run (.newTable fields) fun _ => .run (.set .globals (.text name) (.held 0)) fun _ => .finish []

end Opener

end Script

end EventScripts
