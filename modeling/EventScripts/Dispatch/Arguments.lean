import EventScripts.Dispatch.Request
import EventScripts.Script.Machine

/-!
# Arguments of a call

Scripts rely on the order of the arguments: the numbers, the texts, then one table for each
payload. A table of captures has the groups under their numbers and, over them, under their
names; a group that took no part is `false`, never an empty text.
-/

set_option autoImplicit false

namespace EventScripts

open Script

namespace CaptureSet

/-- The value that stands for a group. -/
def groupValue : Option String → Value
  | some text => .text text
  | none => .boolean false

/-- The entries of the groups under their numbers. -/
def groupEntries (set : CaptureSet) : List (Key × Value) :=
  set.groups.mapIdx fun i g => (.integer (Int64.ofNat i), groupValue g)

/-- Sets the names one after the other; `seen` are those before. A repeated name whose number lies
outside the groups changes nothing if repeated names are allowed. -/
def setNames (set : CaptureSet) : List String → List GroupName → Table → Table
  | _, [], t => t
  | seen, n :: ns, t =>
    let group := set.group n.index
    let skipped := set.duplicateNames && seen.contains n.name && group.isNone
    let value := match group with
      | some g => groupValue g
      | none => .nil
    setNames set (n.name :: seen) ns (if skipped then t else t.set (.text n.name) value)

/-- The table of a capture set. -/
def table (set : CaptureSet) : Table :=
  set.setNames [] set.names ⟨set.groupEntries, set.groups.length, none⟩

end CaptureSet

/-- The table of fields. -/
def fieldTable (fields : List (String × String)) : Table :=
  .ofEntries (fields.map fun (name, value) => (.text name, .text value))

namespace StyleRun

/-- The table of a run. -/
def table (run : StyleRun) : Table :=
  .ofEntries [(.text "text", .text run.text),
    (.text "length", .integer (Int64.ofNat run.text.length)),
    (.text "textcolour", .integer (Int64.ofNat run.fore.toNat)),
    (.text "backcolour", .integer (Int64.ofNat run.back.toNat)),
    (.text "style", .integer (Int64.ofNat run.style.toNat))]

end StyleRun

namespace StyledLine

/-- New tables of runs. -/
def runTables : List StyleRun → Machine (List Value)
  | [] => pure []
  | run :: rest => do
    let v ← Machine.newTable run.table
    return v :: (← runTables rest)

/-- The table of a line: the tables of its runs, numbered from one. -/
def table (runs : List Value) : Table :=
  ⟨runs.mapIdx fun i v => (.integer (Int64.ofNat (i + 1)), v), runs.length, none⟩

end StyledLine

namespace Payload

/-- The argument that a payload becomes. -/
def argument : Payload → Machine Value
  | .captures set => Machine.newTable set.table
  | .fields pairs => Machine.newTable (fieldTable pairs)
  | .styledLine line => do Machine.newTable (StyledLine.table (← StyledLine.runTables line.runs))

/-- The arguments that payloads become. -/
def arguments : List Payload → Machine (List Value)
  | [] => pure []
  | p :: ps => do
    let v ← p.argument
    return v :: (← arguments ps)

end Payload

namespace Request

/-- The arguments of the call that a request asks for. -/
def arguments (r : Request) : Machine (List Value) := do
  let tables ← Payload.arguments r.payloads
  pure (r.numbers.map Value.double ++ r.strings.map Value.text ++ tables)

end Request

/-- The arguments of a call that hands over one text. -/
def textArguments (text : Bytes) : List Value := [.string text]

end EventScripts
