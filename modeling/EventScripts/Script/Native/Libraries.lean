import EventScripts.Deflate.Container
import EventScripts.Library.Bits
import EventScripts.Script.Native.Patterns

/-!
# Functions of the engine's libraries and of the host

Bit operations, patterns, compression, progress indicators, the routines of the host, and the
opening of libraries. What goes wrong in one of these leaves it as a fault with a trace.
-/

set_option autoImplicit false

namespace EventScripts

namespace Script

/-- All arguments as integers. -/
def integerArguments (site : Site) (args : List Value) : Machine (List Int64) :=
  match args.mapM Value.toInt64? with
  | some xs => pure xs
  | none => site.fault (.argument "bad argument")

/-- Calls a bit operation. -/
def BitFunction.run (site : Site) (f : BitFunction) (args : List Value) :
    Machine (List Value) := do
  let shift := fun (op : Int64 → UInt32 → Int64) => do
    let x ← converted site args 1 Value.toInt64?
    let n ← converted site args 2 (Value.toNat? UInt32.size)
    pure [Value.integer (op x (UInt32.ofNat n))]
  match f with
  | .band => return [.integer (Bits.bandAll (← integerArguments site args))]
  | .bor => return [.integer (Bits.borAll (← integerArguments site args))]
  | .bxor => return [.integer (Bits.bxorAll (← integerArguments site args))]
  | .bnot => return [.integer (Bits.bnot (← converted site args 1 Value.toInt64?))]
  | .shl => shift Bits.shl
  | .shr => shift Bits.shr
  | .ashr => shift Bits.ashr

/-- What is said of a compressed stream that cannot be read. -/
def streamComplaint : Deflate.StreamError → String
  | .incomplete => "utils.decompress: incomplete deflate stream"
  | .corrupt => "utils.decompress: corrupt deflate stream"

/-- Changes a progress indicator and shows it. -/
def shown (ref : Nat) (p : Progress) : Machine (List Value) := do
  modify fun vm => { vm with objects := vm.objects.set! ref (.progress p) }
  Machine.emit (.log p.line)
  pure []

/-- Changes a progress indicator. -/
def changed (ref : Nat) (p : Progress) : Machine (List Value) := do
  modify fun vm => { vm with objects := vm.objects.set! ref (.progress p) }
  pure []

/-- Calls a method of a progress indicator. -/
def ProgressMethod.run (site : Site) (m : ProgressMethod) (args : List Value) :
    Machine (List Value) := do
  let vm ← get
  let (ref, p) ← converted site args 1 fun
    | .object ref => match vm.objects[ref]? with
      | some (.progress p) => some (ref, p)
      | _ => none
    | _ => none
  match m with
  | .range =>
    let low ← converted site args 2 Value.toInt64?
    let high ← converted site args 3 Value.toInt64?
    changed ref (p.setRange low high)
  | .position =>
    let position ← converted site args 2 Value.toInt64?
    shown ref (p.setPosition position)
  | .setStep =>
    let step ← converted site args 2 Value.toInt64?
    changed ref (p.setStep step)
  | .step => shown ref p.advance
  | .status =>
    let status ← converted site args 2 Value.toText?
    shown ref (p.setStatus status)
  | .checkCancel => pure [.boolean false]
  | .percent => pure [.integer (Int64.ofInt p.percent)]
  | .close =>
    if p.closed then pure []
    else
      Machine.emit (.log p.closedLine)
      changed ref { p with closed := true }

/-- Calls a routine of the host. -/
def HostRoutine.run (site : Site) (r : HostRoutine) (args : List Value) :
    Machine (List Value) := do
  match r with
  | .record =>
    let vm ← get
    Machine.emit (.record (args.map vm.snapshot))
    pure []
  | .setSource =>
    let origin ← converted site args 1 fun v => v.toText?.bind Origin.ofName?
    Machine.emit (.origin origin)
    pure []
  | .setStyle =>
    let flags ← converted site args 1 (Value.toNat? UInt16.size)
    Machine.emit (.style ⟨UInt16.ofNat flags⟩)
    pure []

/-- Sets a global variable. -/
def setGlobal (call : Caller) (site : Site) (name : Bytes) (v : Value) : Machine Unit :=
  Machine.setIndex call site none (.table Vm.globals) (.string name) v

/-- The value of a global variable. -/
def getGlobal (call : Caller) (site : Site) (name : Bytes) : Machine Value :=
  Machine.index call site none (.table Vm.globals) (.string name)

/-- New functions under their names. -/
def newFunctions : List (String × Native) → Machine (List (Key × Value))
  | [] => pure []
  | (name, f) :: rest => do
    let v ← Machine.newFunction (.native f)
    return (.text name, v) :: (← newFunctions rest)

/-- Makes a table of functions the value of a global variable. -/
def openFunctions (call : Caller) (site : Site) (name : String) (fs : List (String × Native)) :
    Machine Unit := do
  let t ← Machine.newTable (.ofEntries (← newFunctions fs))
  setGlobal call site (textBytes name) t

/-- The field of a table that the host provides. -/
def Provision.value : Provision → Machine Value
  | .text s => pure (.string s)
  | .routine => Machine.newFunction (.native (.routine (.finish [])))

/-- The fields of a table that the host provides. -/
def provisions : List (Bytes × Provision) → Machine (List (Key × Value))
  | [] => pure []
  | (name, p) :: rest => do
    let v ← Provision.value p
    return (.string name, v) :: (← provisions rest)

/-- The value that an operand stands for, among those that a routine has. -/
def Operand.value (held : List Value) : Operand → Value
  | .nil => .nil
  | .boolean b => .boolean b
  | .number n => .number n
  | .text s => .string s
  | .globals => .table Vm.globals
  | .held place => held.getD place .nil

/-- The table that an operand stands for. -/
def Operand.tableIn (held : List Value) (o : Operand) : Machine Nat :=
  match o.value held with
  | .table ref => pure ref
  | _ => throw (.fault (.argument "not a table"))

/-- Does what a routine has done in a machine: the values that it gets by it. -/
def Errand.perform (call : Caller) (site : Site) (held : List Value) :
    Errand → Machine (List Value)
  | .newTable fields => do
    let t ← Machine.newTable (.ofEntries (← provisions fields))
    pure [t]
  | .load code => do
    let f ← Machine.newFunction (.script code)
    pure [f]
  | .get t k => do
    let v ← Machine.index call site none (t.value held) (k.value held)
    pure [v]
  | .set t k v => do
    Machine.setIndex call site none (t.value held) (k.value held) (v.value held)
    pure []
  | .rawGet t k => do
    let v ← Machine.rawGetValue (← t.tableIn held) (k.value held)
    pure [v]
  | .rawSet t k v => do
    Machine.rawSetValue site (← t.tableIn held) (k.value held) (v.value held)
    pure []
  | .setMetatable t m => do
    let metatable ← match m with
      | .nil => pure none
      | m => some <$> m.tableIn held
    Machine.changeTable (← t.tableIn held) ({ · with metatable })
    pure []
  | .call f args => Machine.callValue call site (f.value held) (args.map (·.value held))
  | .log line => do
    Machine.emit (.log line)
    pure []

/-- What a routine sees of values. -/
def seen (values : List Value) : Machine (List Snapshot) :=
  return values.map (← get).snapshot

/-- Performs a routine that has some values: its results. -/
def Routine.perform (call : Caller) (site : Site) : Routine → List Value → Machine (List Value)
  | .finish results, held => pure (results.map (·.value held))
  | .fail f, _ => throw (.fault f)
  | .make body next, held => do
    let f ← Machine.newFunction (.native (.routine body))
    next.perform call site (held ++ [f])
  | .run e next, held => do
    let values ← e.perform call site held
    (next (← seen values)).perform call site (held ++ values)
  | .attempt e next, held => do
    match ← Machine.outcome (e.perform call site held) with
    | .ok values => (next (.ok (← seen values))).perform call site (held ++ values)
    | .error e => (next (.error (← faultOf call site e))).perform call site held
  | .ask q next, held => do
    (next (← Machine.ask q)).perform call site held

/-- Calls a routine. Its error becomes a fault of native code. -/
def runRoutine (call : Caller) (site : Site) (r : Routine) (args : List Value) :
    Machine (List Value) := do
  match ← Machine.outcome (r.perform call site.inner args) with
  | .ok results => pure results
  | .error e => site.fault (← faultOf call site.inner e)

/-- Opens a library that the host supplies. -/
def openSupplied (call : Caller) (site : Site) (opener : Opener) : Machine Unit :=
  discard (opener.perform call site [])

/-- Runs the loader of a library that is opened on the first request: the module is what the
opener leaves in the global variable of its name. -/
def runLoader (call : Caller) (site : Site) (name : Bytes) (opener : Opener) :
    Machine (List Value) := do
  let load : Machine Value := do
    openSupplied call site.inner opener
    getGlobal call site.inner name
  match ← Machine.outcome load with
  | .ok v => pure [v]
  | .error e => site.fault (← faultOf call site.inner e)

end Script

end EventScripts
