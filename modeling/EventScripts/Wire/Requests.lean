import EventScripts.Dispatch.Request
import EventScripts.Wire.Values

/-!
# JSON forms of requests

A request read from JSON has its payloads as they stand there: in any order, and more than one of
a kind.
-/

set_option autoImplicit false

namespace EventScripts

open Json

/-- The fields that JSON denotes: an object of texts, of which a later one wins over an earlier one
of the same name. -/
def fieldsOfJson? : Json → Option (List (String × String))
  | .object members => do
    let pairs ← members.mapM fun (name, j) => (asText? j).map fun value => (name, value)
    some (fieldsOf pairs)
  | _ => none

namespace Payload

/-- A payload in JSON. -/
def toJson (p : Payload) : Json :=
  let (kind, content) : String × Json := match p with
    | .captures set => ("captures", set.toJson)
    | .fields pairs => ("fields", .object (pairs.map fun (name, value) => (name, .string value)))
    | .styledLine line => ("styled_line", line.toJson)
  .object [("type", .string kind), ("value", content)]

/-- The payload that JSON denotes. -/
def ofJson? (j : Json) : Option Payload := do
  let (kind, content) ← asTagged? "type" "value" j
  match kind with
  | "captures" => return .captures (← CaptureSet.ofJson? content)
  | "fields" => return .fields (← fieldsOfJson? content)
  | "styled_line" => return .styledLine (← StyledLine.ofJson? content)
  | _ => none

end Payload

namespace CallContext

/-- A context in JSON. -/
def toJson (c : CallContext) : Json :=
  .object [("procedure", .string c.procedure), ("kind", .string c.kind),
    ("reason", .string c.reason)]

/-- The context that JSON denotes. -/
def ofJson? (j : Json) : Option CallContext := do
  match ← asFields? ["procedure", "kind", "reason"] j with
  | [some procedure, some kind, some reason] =>
    some ⟨← asText? procedure, ← asText? kind, ← asText? reason⟩
  | _ => none

end CallContext

namespace Request

/-- A request in JSON. -/
def toJson (r : Request) : Json :=
  .object [("procedure", .string r.procedure), ("source", r.source.toJson),
    ("kind", .string r.kind), ("reason", .string r.reason),
    ("numbers", .array (r.numbers.map Json.double)),
    ("strings", .array (r.strings.map Json.string)),
    ("payloads", .array (r.payloads.map Payload.toJson)), ("want_result", .bool r.wantResult)]

/-- The names of the fields of a request. -/
def fieldNames : List String :=
  ["procedure", "source", "kind", "reason", "numbers", "strings", "payloads", "want_result"]

/-- The request that JSON denotes. -/
def ofJson? (j : Json) : Option Request := do
  match ← asFields? fieldNames j with
  | [some procedure, some source, some kind, some reason, some numbers, some strings,
      some payloads, some wantResult] =>
    some {
      procedure := ← asText? procedure
      source := ← Origin.ofJson? source
      kind := ← asText? kind
      reason := ← asText? reason
      numbers := ← asList? asDouble? numbers
      strings := ← asList? asText? strings
      payloads := ← asList? Payload.ofJson? payloads
      wantResult := ← asBool? wantResult }
  | _ => none

end Request

end EventScripts
