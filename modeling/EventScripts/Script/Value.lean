import EventScripts.Host.Origin
import EventScripts.Library.Opener
import EventScripts.Script.Compile
import EventScripts.Script.Fault

/-!
# Values of the script language

Tables, threads and native objects live in the machine and are referred to by number; a function
carries its code and a number of its own. `Key` is the part of the values that can be the key of
a table entry: neither nil nor what is not a number, and with whole doubles turned into integers,
so that keys are equal exactly when they are the same key.
-/

set_option autoImplicit false

namespace EventScripts

namespace Script

/-- Functions of the standard library that do something here. -/
inductive Basic where
  | collect | coroutineCreate | error | format | getMetatable | isYieldable | length
  | lower | pcall | print | rawEqual | rawGet | rawLength | rawSet | rep | require | reverse
  | select | setMetatable | toString | traceback | type | upper | xpcall
  /-- Finds the loaders that have been put under `package.preload`. -/
  | searchPreload
  /-- Looks for script files along `package.path`. -/
  | searchScripts
  /-- Looks for native modules along `package.cpath`. -/
  | searchNative
  /-- Looks for native modules that hold several modules. -/
  | searchNativeRoot
  deriving DecidableEq

/-- Functions of the library of bit operations. -/
inductive BitFunction where
  | band | bor | bxor | bnot | shl | shr | ashr
  deriving DecidableEq

/-- Methods of a compiled pattern. -/
inductive PatternMethod where
  | exec | match_ | gmatch
  deriving DecidableEq

/-- Methods of a progress indicator. -/
inductive ProgressMethod where
  | range | position | setStep | step | status | checkCancel | percent | close
  deriving DecidableEq

/-- Functions and methods of files. -/
inductive FileFunction where
  | open_ | close | kind | remove | rename | read | write | seek | flush | setBuffer
  deriving DecidableEq

/-- Routines the host puts into a machine. -/
inductive HostRoutine where
  /-- Notes its arguments. -/
  | record
  /-- Changes the current origin of the host. -/
  | setSource
  /-- Changes the current note style of the host. -/
  | setStyle
  deriving DecidableEq

/-- A function that is not written in the script language. -/
inductive Native where
  | basic (f : Basic)
  /-- A function of the standard library of which only the presence matters. -/
  | standard (name : String)
  | bit (f : BitFunction)
  | patternNew
  | patternEscape
  | patternMethod (m : PatternMethod)
  | compress
  | decompress
  | progressNew
  | progressMethod (m : ProgressMethod)
  | file (f : FileFunction)
  | host (r : HostRoutine)
  /-- Opens a library on the first request and gives what it left in the global of that name. -/
  | loader (name : Bytes) (opener : Opener)
  /-- A routine of the host. -/
  | routine (r : Routine)

/-- What a function does when it is called. -/
inductive FunctionBody where
  | script (code : Code)
  | native (f : Native)

/-- A function. Functions are the same when their numbers are. -/
structure Function where
  id : Nat
  body : FunctionBody

/-- A value. -/
inductive Value where
  | nil
  | boolean (b : Bool)
  | number (n : Number)
  | string (s : Bytes)
  | table (ref : Nat)
  | function (f : Function)
  | thread (ref : Nat)
  | object (ref : Nat)
  | fault (f : Fault)

/-- The key of a table entry. -/
inductive Key where
  | boolean (b : Bool)
  | integer (i : Int64)
  /-- A double that is no integer, by its bits. -/
  | double (bits : UInt64)
  | string (s : Bytes)
  | table (ref : Nat)
  | function (id : Nat)
  | thread (ref : Nat)
  | object (ref : Nat)
  | fault (f : Fault)
  deriving DecidableEq

namespace Value

/-- An integer. -/
def integer (i : Int64) : Value := .number (.integer i)

/-- A double. -/
def double (x : Float) : Value := .number (.double x)

/-- A text as a byte string. -/
def text (s : String) : Value := .string (textBytes s)

/-- Everything but false and nil counts as true. -/
def truthy : Value → Bool
  | .nil => false
  | .boolean b => b
  | _ => true

/-- The name of a value's type in the script language. -/
def typeName : Value → String
  | .nil => "nil"
  | .boolean _ => "boolean"
  | .number _ => "number"
  | .string _ => "string"
  | .table _ => "table"
  | .function _ => "function"
  | .thread _ => "thread"
  | .object _ => "userdata"
  | .fault _ => "userdata"

/-- The first of several values, nil when there is none. -/
def head : List Value → Value
  | [] => .nil
  | v :: _ => v

end Value

/-- The integer that a double is equal to, if it fits. -/
def wholeInteger? (x : Float) : Option Int64 :=
  (Binary64.whole? x).bind fun i =>
    if Int64.minValue.toInt ≤ i && i ≤ Int64.maxValue.toInt then some (Int64.ofInt i) else none

namespace Key

/-- The key that a value is, if it can be one. -/
def ofValue? : Value → Option Key
  | .nil => none
  | .boolean b => some (.boolean b)
  | .number (.integer i) => some (.integer i)
  | .number (.double x) =>
    if x.isNaN then none
    else match wholeInteger? x with
      | some i => some (.integer i)
      | none => some (.double x.toBits)
  | .string s => some (.string s)
  | .table r => some (.table r)
  | .function f => some (.function f.id)
  | .thread r => some (.thread r)
  | .object r => some (.object r)
  | .fault f => some (.fault f)

/-- A text as a key. -/
def text (s : String) : Key := .string (textBytes s)

end Key

/-- Whether two values are the same, without asking their metatables. -/
def Value.same (a b : Value) : Bool :=
  match Key.ofValue? a, Key.ofValue? b with
  | some k, some l => k == l
  | none, none => match a, b with
    | .nil, .nil => true
    | _, _ => false
  | _, _ => false

end Script

end EventScripts
