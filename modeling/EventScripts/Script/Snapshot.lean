import EventScripts.Number.Numeral

/-!
# Snapshots of values

A snapshot is what can be seen of a value from outside the machine: tables are copied with their
entries in a fixed order, and of functions, threads and objects only the kind is left. Snapshots
stay as they are while the machine goes on.
-/

set_option autoImplicit false

namespace EventScripts

namespace Script

/-- What can be seen of a value. -/
inductive Snapshot where
  | nil
  | boolean (b : Bool)
  | number (n : Number)
  | string (s : Bytes)
  /-- A table with its rows: integer keys ascending, then doubles ascending, then byte strings in
  byte-wise order, then `false` and `true`. -/
  | table (rows : List (Snapshot × Snapshot))
  | function
  /-- A value of another kind, by the name of the kind. -/
  | other (kind : String)

end Script

end EventScripts
