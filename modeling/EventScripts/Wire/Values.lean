import EventScripts.Dispatch.Captures
import EventScripts.Dispatch.Outcome
import EventScripts.Dispatch.StyledLine
import EventScripts.Dispatch.Token
import EventScripts.Json.Decode
import EventScripts.Wire.Snapshots

/-!
# JSON forms of small values

Tokens, results, origins, styles, captures and styled lines in JSON. Records are written as objects
of their fields, constants as their names, and values of one of several kinds with the name of the
kind under `type` beside the content under `value`. What is written reads back.
-/

set_option autoImplicit false

namespace EventScripts

open Json

/-- An optional text in JSON. -/
def Json.ofText? : Option String → Json
  | some s => .string s
  | none => .null

namespace Origin

/-- An origin in JSON. -/
def toJson (o : Origin) : Json := .string o.name

/-- The origin that JSON denotes. -/
def ofJson? (j : Json) : Option Origin := (asConstant? j).bind ofName?

end Origin

namespace NoteStyle

/-- A note style in JSON. -/
def toJson (s : NoteStyle) : Json := .natural s.flags.toNat

/-- The note style that JSON denotes. -/
def ofJson? (j : Json) : Option NoteStyle :=
  (asNatural? UInt16.size j).map fun n => ⟨UInt16.ofNat n⟩

end NoteStyle

namespace TokenState

/-- A state in JSON. -/
def toJson (s : TokenState) : Json := .string s.name

/-- The state that JSON denotes. -/
def ofJson? (j : Json) : Option TokenState := (asConstant? j).bind ofName?

end TokenState

namespace Token

/-- A token in JSON. -/
def toJson (t : Token) : Json :=
  .object [("state", t.state.toJson), ("generation", .natural t.generation)]

/-- The token that JSON denotes. -/
def ofJson? (j : Json) : Option Token := do
  match ← asFields? ["state", "generation"] j with
  | [some state, some generation] =>
    some ⟨← TokenState.ofJson? state, ← asNatural? UInt64.size generation⟩
  | _ => none

end Token

namespace Scalar

/-- A result in JSON. -/
def toJson : Scalar → Json
  | .boolean b => .object [("type", .string "boolean"), ("value", .bool b)]
  | .number x => .object [("type", .string "number"), ("value", .double x)]

/-- The result that JSON denotes. -/
def ofJson? (j : Json) : Option Scalar := do
  let (kind, content) ← asTagged? "type" "value" j
  match kind with
  | "boolean" => return .boolean (← asBool? content)
  | "number" => return .number (← asDouble? content)
  | _ => none

end Scalar

namespace GroupName

/-- A name of a group in JSON. -/
def toJson (n : GroupName) : Json :=
  .object [("name", .string n.name), ("index", .ofInt n.index)]

/-- The name of a group that JSON denotes. -/
def ofJson? (j : Json) : Option GroupName := do
  match ← asFields? ["name", "index"] j with
  | [some name, some index] => some ⟨← asText? name, ← asInteger? index⟩
  | _ => none

end GroupName

namespace CaptureSet

/-- A capture set in JSON. -/
def toJson (set : CaptureSet) : Json :=
  .object [("groups", .array (set.groups.map Json.ofText?)),
    ("names", .array (set.names.map GroupName.toJson)),
    ("duplicate_names", .bool set.duplicateNames)]

/-- The capture set that JSON denotes. -/
def ofJson? (j : Json) : Option CaptureSet := do
  match ← asFields? ["groups", "names", "duplicate_names"] j with
  | [some groups, some names, some duplicateNames] =>
    some ⟨← asList? (asOptional? asText?) groups, ← asList? GroupName.ofJson? names,
      ← asBool? duplicateNames⟩
  | _ => none

end CaptureSet

namespace StyleRun

/-- A run in JSON. -/
def toJson (r : StyleRun) : Json :=
  .object [("text", .string r.text), ("fore", .natural r.fore.toNat),
    ("back", .natural r.back.toNat), ("style", .natural r.style.toNat)]

/-- The run that JSON denotes. -/
def ofJson? (j : Json) : Option StyleRun := do
  match ← asFields? ["text", "fore", "back", "style"] j with
  | [some text, some fore, some back, some style] =>
    some ⟨← asText? text, UInt32.ofNat (← asNatural? UInt32.size fore),
      UInt32.ofNat (← asNatural? UInt32.size back), UInt16.ofNat (← asNatural? UInt16.size style)⟩
  | _ => none

end StyleRun

namespace StyledLine

/-- A styled line in JSON. -/
def toJson (line : StyledLine) : Json :=
  .object [("runs", .array (line.runs.map StyleRun.toJson))]

/-- The styled line that JSON denotes. -/
def ofJson? (j : Json) : Option StyledLine := do
  match ← asFields? ["runs"] j with
  | [some runs] => some ⟨← asList? StyleRun.ofJson? runs⟩
  | _ => none

end StyledLine

end EventScripts
