import EventScripts.Script.Native.Arguments

/-!
# Calls of compiled patterns

`exec` and `match_` search the same subject from the same place and describe the same match, one by
its place and a table of its groups, the other by the texts of its groups. `gmatch` hands each
match to a function. A group that took no part in a match is `false`.
-/

set_option autoImplicit false

namespace EventScripts

namespace Script

open Pattern (Span)

/-- The place at which a search starts, for a place counted from one that may be missing. -/
def searchStart (first : Option Nat) (size : Nat) : Nat :=
  min (first.getD 1 - 1) size

/-- The bytes of a span. -/
def slice (subject : Bytes) (span : Span) : Bytes :=
  (subject.drop span.1).take (span.2 - span.1)

/-- The value that stands for a group. -/
def groupValue (subject : Bytes) : Option Span → Value
  | some span => .string (slice subject span)
  | none => .boolean false

/-- The entries of the groups under their numbers. -/
def numberedGroups (subject : Bytes) (spans : List (Option Span)) : List (Key × Value) :=
  spans.tail.mapIdx fun i span => (.integer (Int64.ofNat (i + 1)), groupValue subject span)

/-- The entries of the groups under their names. -/
def namedGroups (p : Pattern) (subject : Bytes) (spans : List (Option Span)) :
    List (Key × Value) :=
  p.names.map fun (name, i) => (.text name, groupValue subject (spans[i]?.getD none))

/-- What a match is described by: the place of its first byte, counted from one, the place of its
last, and the table of its groups. -/
def describeMatch (p : Pattern) (subject : Bytes) (spans : List (Option Span)) :
    Machine (List Value) := do
  let whole := Pattern.wholeSpan spans
  let t ← Machine.newTable
    (.ofEntries (numberedGroups subject spans ++ namedGroups p subject spans))
  pure [.integer (Int64.ofNat (whole.1 + 1)), .integer (Int64.ofNat whole.2), t]

/-- The description of the first match from a place on. -/
def execResults (p : Pattern) (subject : String) (first : Option Nat) : Machine (List Value) :=
  let bytes := textBytes subject
  match p.spans? subject (searchStart first bytes.length) with
  | none => pure [.nil]
  | some spans => describeMatch p bytes spans

/-- The texts of the groups of a match, or the text of the match if there is no group. -/
def matchResults (p : Pattern) (subject : String) (first : Option Nat) : List Value :=
  let bytes := textBytes subject
  match p.spans? subject (searchStart first bytes.length) with
  | none => [.nil]
  | some spans => match spans with
    | [whole] => [.string (slice bytes (whole.getD (0, 0)))]
    | _ => spans.tail.map (groupValue bytes)

/-- The fault that an error value is for native code: a fault as it is, anything else as a message
with the text of the value, cut at its first NUL, and a trace. -/
def faultOf (call : Caller) (site : Site) (e : Value) : Machine Fault := do
  match e with
  | .fault f => pure f
  | e =>
    let text ← tryCatch (Machine.textOf call site e) fun _ => Machine.plainText e
    pure (.runtime (text.untilNul.lossy ++ "\n" ++ traceMark))

/-- Calls a function from native code; its error becomes a fault of that code. -/
def callFromNative (call : Caller) (site : Site) (f : Function) (args : List Value) :
    Machine (List Value) := do
  match ← Machine.outcome (call site.inner f args) with
  | .ok results => pure results
  | .error e => site.fault (← faultOf call site.inner e)

/-- Whether a result asks to stop: only `true` itself does. -/
def isStop : Value → Bool
  | .boolean b => b
  | _ => false

/-- Hands matches to a function until it asks to stop; how many it was called for. -/
def eachMatch (call : Caller) (site : Site) (bytes : Bytes) (f : Function) :
    Nat → List (List (Option Span)) → Machine Nat
  | count, [] => pure count
  | count, spans :: rest => do
    let t ← Machine.newTable (.ofEntries (numberedGroups bytes spans))
    let results ← callFromNative call site f
      [.string (slice bytes (Pattern.wholeSpan spans)), t]
    if isStop (Value.head results) then pure (count + 1)
    else eachMatch call site bytes f (count + 1) rest

namespace PatternMethod

/-- A function argument of a method. -/
def function? : Value → Option Function
  | .function f => some f
  | _ => none

/-- Calls a method of a compiled pattern. -/
def run (call : Caller) (site : Site) (m : PatternMethod) (args : List Value) :
    Machine (List Value) := do
  let vm ← get
  let p ← converted site args 1 fun
    | .object ref => match vm.objects[ref]? with
      | some (.pattern p) => some p
      | _ => none
    | _ => none
  let subject ← converted site args 2 Value.toText?
  match m with
  | .exec =>
    let first ← converted site args 3 (Value.toOptional? (Value.toNat? UInt64.size))
    execResults p subject first
  | .match_ =>
    let first ← converted site args 3 (Value.toOptional? (Value.toNat? UInt64.size))
    pure (matchResults p subject first)
  | .gmatch =>
    let f ← converted site args 3 function?
    let count ← eachMatch call site (textBytes subject) f 0 (p.matchesOf subject)
    pure [.integer (Int64.ofNat count)]

end PatternMethod

end Script

end EventScripts
