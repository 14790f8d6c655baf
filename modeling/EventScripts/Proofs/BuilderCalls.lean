import Mathlib.Data.List.Induction
import EventScripts.Proofs.WireLayout

/-!
# Requests that are built alike

The calls of the builder do not depend on each other across the kinds of arguments. What a sequence
of calls comes to is its numbers and its texts, each in their order, its last origin, its last
payload of each kind, and whether it asks for the result. Sequences that agree on these build the
same request, however the kinds are interleaved, and no others do.
-/

set_option autoImplicit false

namespace EventScripts

open Script

/-- The captures of a payload. -/
def Payload.captures? : Payload → Option CaptureSet
  | .captures set => some set
  | _ => none

/-- The fields of a payload. -/
def Payload.fields? : Payload → Option (List (String × String))
  | .fields pairs => some pairs
  | _ => none

/-- The styled line of a payload. -/
def Payload.styledLine? : Payload → Option StyledLine
  | .styledLine line => some line
  | _ => none

namespace Request

namespace BuilderCall

/-- The origin that a call sets. -/
def source? : BuilderCall → Option Origin
  | .source o => some o
  | _ => none

/-- The number that a call gives. -/
def number? : BuilderCall → Option Float
  | .number x => some x
  | _ => none

/-- The text that a call gives. -/
def string? : BuilderCall → Option String
  | .string s => some s
  | _ => none

/-- The payload that a call gives, be it by the method for its kind or by the one for any kind. -/
def payload? : BuilderCall → Option Payload
  | .payload p => some p
  | .captures set => some (.captures set)
  | .fields pairs => some (.fields pairs)
  | .styledLine line => some (.styledLine line)
  | _ => none

/-- Whether a call asks for the result. -/
def asksResult : BuilderCall → Bool
  | .withResult => true
  | _ => false

end BuilderCall

/-! ## What calls come to -/

/-- The origin that is set last. -/
def lastSource (calls : List BuilderCall) : Option Origin :=
  (calls.filterMap BuilderCall.source?).getLast?

/-- The numbers that calls give, in their order. -/
def givenNumbers (calls : List BuilderCall) : List Float :=
  calls.filterMap BuilderCall.number?

/-- The texts that calls give, in their order. -/
def givenStrings (calls : List BuilderCall) : List String :=
  calls.filterMap BuilderCall.string?

/-- The payloads of one kind that calls give, the last of them. -/
def lastPayload {α : Type} (kind? : Payload → Option α) (calls : List BuilderCall) : Option α :=
  ((calls.filterMap BuilderCall.payload?).filterMap kind?).getLast?

/-- The last payload of each kind, in the order of the layout. -/
def lastPayloads (calls : List BuilderCall) : List Payload :=
  orderedPayloads (lastPayload Payload.captures? calls) (lastPayload Payload.fields? calls)
    (lastPayload Payload.styledLine? calls)

/-- The request that holds just what the calls come to. -/
def canonical (procedure kind reason : String) (calls : List BuilderCall) : Request where
  procedure := procedure
  source := (lastSource calls).getD .dontChange
  kind := kind
  reason := reason
  numbers := givenNumbers calls
  strings := givenStrings calls
  payloads := lastPayloads calls
  wantResult := calls.any BuilderCall.asksResult

/-- What a call does to each part of a request. -/
theorem apply_eq (r : Request) (c : BuilderCall) :
    c.apply r =
      { r with
        source := c.source?.getD r.source
        numbers := r.numbers ++ c.number?.toList
        strings := r.strings ++ c.string?.toList
        payloads := (c.payload?.map fun p => (r.payload p).payloads).getD r.payloads
        wantResult := r.wantResult || c.asksResult } := by
  cases c <;>
    simp [BuilderCall.apply, BuilderCall.source?, BuilderCall.number?, BuilderCall.string?,
      BuilderCall.payload?, BuilderCall.asksResult, withSource, number, string, captures, fields,
      styledLine, withResult, payload]

/-! ## The canonical request -/

/-- One more call sets the origin anew, or leaves the last one. -/
theorem lastSource_append (calls : List BuilderCall) (c : BuilderCall) :
    lastSource (calls ++ [c]) = c.source?.or (lastSource calls) := by
  unfold lastSource
  rw [List.filterMap_append, List.getLast?_append]
  cases hc : c.source? <;> simp [hc]

/-- One more call gives a new payload of a kind, or leaves the last one. -/
theorem lastPayload_append {α : Type} (kind? : Payload → Option α) (calls : List BuilderCall)
    (c : BuilderCall) :
    lastPayload kind? (calls ++ [c]) = (c.payload?.bind kind?).or (lastPayload kind? calls) := by
  unfold lastPayload
  rw [List.filterMap_append, List.filterMap_append, List.getLast?_append]
  congr 1
  cases hp : c.payload? with
  | none => simp [hp]
  | some p => cases hk : kind? p <;> simp [hp, hk]

/-- A payload takes the place of the one of its kind, and leaves the others. -/
theorem payloads_payload {r : Request} {set : Option CaptureSet}
    {pairs : Option (List (String × String))} {line : Option StyledLine}
    (h : r.payloads = orderedPayloads set pairs line) (p : Payload) :
    (r.payload p).payloads =
      orderedPayloads (p.captures?.or set) (p.fields?.or pairs) (p.styledLine?.or line) := by
  unfold payload
  rw [h]
  -- The payloads of the other kinds are there or not: the list is sorted in each of these cases.
  cases p with
  | captures new => cases set <;> cases pairs <;> cases line <;> rfl
  | fields new => cases set <;> cases pairs <;> cases line <;> rfl
  | styledLine new => cases set <;> cases pairs <;> cases line <;> rfl

/-- One more call gives the last payloads with its own, if it has one, in its place. -/
theorem lastPayloads_append {r : Request} {calls : List BuilderCall}
    (h : r.payloads = lastPayloads calls) (c : BuilderCall) :
    lastPayloads (calls ++ [c]) =
      (c.payload?.map fun p => (r.payload p).payloads).getD r.payloads := by
  unfold lastPayloads
  rw [lastPayload_append, lastPayload_append, lastPayload_append]
  cases c.payload? with
  | none => exact h.symm
  | some p => exact (payloads_payload h p).symm

/-- One more call takes the canonical request of the calls before to that of all of them. -/
theorem apply_canonical (procedure kind reason : String) (calls : List BuilderCall)
    (c : BuilderCall) :
    c.apply (canonical procedure kind reason calls) =
      canonical procedure kind reason (calls ++ [c]) := by
  have hsource : c.source?.getD ((lastSource calls).getD .dontChange) =
      (lastSource (calls ++ [c])).getD .dontChange := by
    rw [lastSource_append]
    cases c.source? <;> rfl
  have hpayloads := lastPayloads_append (r := canonical procedure kind reason calls) rfl c
  rw [apply_eq, ← hpayloads]
  simp only [canonical, hsource, givenNumbers, givenStrings, List.filterMap_append, List.any_append]
  cases c <;> rfl

/-- Calls on a new request build the canonical request. -/
theorem build_new (procedure kind reason : String) (calls : List BuilderCall) :
    (new procedure kind reason).build calls = canonical procedure kind reason calls := by
  induction calls using List.reverseRecOn with
  | nil => rfl
  | append_singleton calls c ih =>
    calc (new procedure kind reason).build (calls ++ [c])
        = c.apply ((new procedure kind reason).build calls) := List.foldl_concat ..
      _ = c.apply (canonical procedure kind reason calls) := by rw [ih]
      _ = canonical procedure kind reason (calls ++ [c]) := apply_canonical ..

/-- The payloads in the order of the layout tell which payload there is of each kind. -/
theorem orderedPayloads_inj {set set' : Option CaptureSet}
    {pairs pairs' : Option (List (String × String))} {line line' : Option StyledLine} :
    orderedPayloads set pairs line = orderedPayloads set' pairs' line' ↔
      set = set' ∧ pairs = pairs' ∧ line = line' := by
  have hcaptures : ∀ a b c, ((orderedPayloads a b c).filterMap Payload.captures?).head? = a := by
    intro a b c
    cases a <;> cases b <;> cases c <;> rfl
  have hfields : ∀ a b c, ((orderedPayloads a b c).filterMap Payload.fields?).head? = b := by
    intro a b c
    cases a <;> cases b <;> cases c <;> rfl
  have hlines : ∀ a b c, ((orderedPayloads a b c).filterMap Payload.styledLine?).head? = c := by
    intro a b c
    cases a <;> cases b <;> cases c <;> rfl
  constructor
  · intro h
    refine ⟨?_, ?_, ?_⟩
    · rw [← hcaptures set pairs line, h, hcaptures]
    · rw [← hfields set pairs line, h, hfields]
    · rw [← hlines set pairs line, h, hlines]
  · rintro ⟨rfl, rfl, rfl⟩
    rfl

/-! ## Which calls build the same -/

/-- Two sequences of calls come to the same. One that sets no origin counts as one that sets the
origin of a new request. -/
structure ComeToTheSame (calls other : List BuilderCall) : Prop where
  source : (lastSource calls).getD .dontChange = (lastSource other).getD .dontChange
  numbers : givenNumbers calls = givenNumbers other
  strings : givenStrings calls = givenStrings other
  captures : lastPayload Payload.captures? calls = lastPayload Payload.captures? other
  fields : lastPayload Payload.fields? calls = lastPayload Payload.fields? other
  styledLine : lastPayload Payload.styledLine? calls = lastPayload Payload.styledLine? other
  result : calls.any BuilderCall.asksResult = other.any BuilderCall.asksResult

/-- Sequences come to the same if the requests that hold what they come to are equal. -/
theorem canonical_eq_iff (procedure kind reason : String) (calls other : List BuilderCall) :
    canonical procedure kind reason calls = canonical procedure kind reason other ↔
      ComeToTheSame calls other := by
  constructor
  · intro h
    obtain ⟨hcaptures, hfields, hline⟩ := orderedPayloads_inj.mp (congrArg Request.payloads h)
    exact
      { source := congrArg Request.source h
        numbers := congrArg Request.numbers h
        strings := congrArg Request.strings h
        captures := hcaptures
        fields := hfields
        styledLine := hline
        result := congrArg Request.wantResult h }
  · intro h
    unfold canonical lastPayloads
    rw [h.source, h.numbers, h.strings, h.captures, h.fields, h.styledLine, h.result]

/-- Two sequences of calls build the same request exactly if they come to the same, whatever their
lengths and however the kinds are interleaved in them. The call of a request that is built passes
the numbers, the texts and the tables for the last payload of each kind, and has as many arguments
as the request counts. -/
theorem builders_agree_iff_calls_come_to_the_same (procedure kind reason : String)
    (calls : List BuilderCall) :
    (∀ other, (new procedure kind reason).build calls = (new procedure kind reason).build other ↔
      ComeToTheSame calls other) ∧
    ∀ vm, ∃ tables vm',
      Machine.run ((new procedure kind reason).build calls).arguments vm =
        (.ok ((givenNumbers calls).map Value.double ++ (givenStrings calls).map Value.text ++
          tables), vm') ∧
      List.Forall₂ (Payload.Stands vm') (lastPayloads calls) tables ∧ vm.Grows vm' ∧
      ((givenNumbers calls).map Value.double ++ (givenStrings calls).map Value.text ++
          tables).length =
        ((new procedure kind reason).build calls).argumentCount := by
  constructor
  · intro other
    rw [build_new, build_new]
    exact canonical_eq_iff procedure kind reason calls other
  · intro vm
    rw [build_new]
    obtain ⟨tables, vm', hrun, hgrows, htables⟩ :=
      (canonical procedure kind reason calls).arguments_spec vm
    refine ⟨tables, vm', hrun, htables, hgrows, ?_⟩
    have hlength : tables.length = (lastPayloads calls).length := htables.length_eq.symm
    rw [List.length_append, List.length_append, List.length_map, List.length_map, hlength]
    rfl

end Request

end EventScripts
