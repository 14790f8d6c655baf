import EventScripts.Dispatch.Captures
import EventScripts.Dispatch.StyledLine
import EventScripts.Host.Origin
import EventScripts.Text.Order

/-!
# Requests to call a script function

Triggers, aliases, timers and plugin callbacks describe their call as a request: numbers, texts
and structured payloads. The builder keeps at most one payload of each kind, in the order in which
they are passed.
-/

set_option autoImplicit false

namespace EventScripts

/-- A structured argument. The fields are sorted by their names, each name once. -/
inductive Payload where
  | captures (set : CaptureSet)
  | fields (fields : List (String × String))
  | styledLine (line : StyledLine)
  deriving DecidableEq

namespace Payload

/-- The place of a payload among the others. -/
def rank : Payload → Nat
  | .captures _ => 0
  | .fields _ => 1
  | .styledLine _ => 2

end Payload

/-- Fields with a value set under a name, kept sorted. -/
def setField (name value : String) : List (String × String) → List (String × String)
  | [] => [(name, value)]
  | (n, v) :: rest =>
    if n == name then (name, value) :: rest
    else if textLe name n then (name, value) :: (n, v) :: rest
    else (n, v) :: setField name value rest

/-- Fields of pairs, of which a later one wins over an earlier one of the same name. -/
def fieldsOf (pairs : List (String × String)) : List (String × String) :=
  pairs.foldl (fun fs (name, value) => setField name value fs) []

/-- Who asked for a call. -/
structure CallContext where
  procedure : String
  kind : String
  reason : String
  deriving DecidableEq

/-- A request to call a script function. -/
structure Request where
  /-- The name of the function, possibly with dots. -/
  procedure : String
  source : Origin
  kind : String
  reason : String
  numbers : List Float
  strings : List String
  payloads : List Payload
  wantResult : Bool

namespace Request

/-- A request without arguments that leaves the origin as it is. -/
def new (procedure kind reason : String) : Request :=
  ⟨procedure, .dontChange, kind, reason, [], [], [], false⟩

/-- The request with an origin. -/
def withSource (r : Request) (source : Origin) : Request := { r with source }

/-- The request with one more number. -/
def number (r : Request) (n : Float) : Request := { r with numbers := r.numbers ++ [n] }

/-- The request with one more text. -/
def string (r : Request) (s : String) : Request := { r with strings := r.strings ++ [s] }

/-- Puts a payload behind those of lower or equal rank. -/
def insertPayload (p : Payload) : List Payload → List Payload
  | [] => [p]
  | q :: qs => if q.rank ≤ p.rank then q :: insertPayload p qs else p :: q :: qs

/-- The payloads sorted by rank, those of equal rank in their order. -/
def sortPayloads (ps : List Payload) : List Payload :=
  ps.foldl (fun sorted p => insertPayload p sorted) []

/-- The request with a payload in place of an earlier one of its kind. -/
def payload (r : Request) (p : Payload) : Request :=
  { r with payloads := sortPayloads (r.payloads.filter (·.rank != p.rank) ++ [p]) }

/-- The request with captures. -/
def captures (r : Request) (set : CaptureSet) : Request := r.payload (.captures set)

/-- The request with fields. -/
def fields (r : Request) (fields : List (String × String)) : Request :=
  r.payload (.fields fields)

/-- The request with a styled line. -/
def styledLine (r : Request) (line : StyledLine) : Request := r.payload (.styledLine line)

/-- The request for a call whose result is asked for. -/
def withResult (r : Request) : Request := { r with wantResult := true }

/-- Number of arguments of the call. -/
def argumentCount (r : Request) : Nat :=
  r.numbers.length + r.strings.length + r.payloads.length

/-- Who asked for the call. -/
def context (r : Request) : CallContext := ⟨r.procedure, r.kind, r.reason⟩

end Request

end EventScripts
