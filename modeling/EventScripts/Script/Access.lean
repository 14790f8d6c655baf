import EventScripts.Script.Site

/-!
# Access to values through their metatables

Reading and setting fields, calling, joining, measuring and showing values. What a value cannot do
by itself its metatable may provide. Metatables can refer to each other in chains; a chain that
is too long counts as a loop.
-/

set_option autoImplicit false

namespace EventScripts

namespace Script

/-- The number of a method of native objects as a function. Methods are made once. -/
def methodId : Native → Nat
  | .patternMethod .exec => 1
  | .patternMethod .match_ => 2
  | .patternMethod .gmatch => 3
  | .progressMethod .range => 4
  | .progressMethod .position => 5
  | .progressMethod .setStep => 6
  | .progressMethod .step => 7
  | .progressMethod .status => 8
  | .progressMethod .checkCancel => 9
  | .progressMethod .percent => 10
  | .progressMethod .close => 11
  | .file .close => 12
  | .file .read => 13
  | .file .write => 14
  | .file .seek => 15
  | .file .flush => 16
  | .file .setBuffer => 17
  | _ => 0

/-- The methods of files, of which those of the standard streams are among. -/
def fileMethods : List (String × Native) :=
  [("close", .file .close), ("flush", .file .flush), ("read", .file .read),
    ("seek", .file .seek), ("setvbuf", .file .setBuffer), ("write", .file .write),
    ("lines", .standard "lines")]

/-- The methods of a native object with their names. -/
def Object.methods : Object → List (String × Native)
  | .pattern _ => [("exec", .patternMethod .exec), ("match", .patternMethod .match_),
      ("gmatch", .patternMethod .gmatch)]
  | .progress _ => [("range", .progressMethod .range), ("position", .progressMethod .position),
      ("setstep", .progressMethod .setStep), ("step", .progressMethod .step),
      ("status", .progressMethod .status), ("checkcancel", .progressMethod .checkCancel),
      ("percent", .progressMethod .percent), ("close", .progressMethod .close)]
  | .file _ | .stream => fileMethods

/-- The method of a native object that has a name, nil if none has. -/
def Object.method (o : Object) (name : Value) : Value :=
  match name with
  | .string s => match o.methods.find? fun (n, _) => textBytes n == s with
    | some (_, m) => .function ⟨methodId m, .native m⟩
    | none => .nil
  | _ => .nil

namespace Machine

/-- The value under a key, the metatable not asked; nil for what cannot be a key. -/
def rawGetValue (ref : Nat) (k : Value) : Machine Value :=
  match Key.ofValue? k with
  | some k => rawGet ref k
  | none => pure .nil

/-- The key that a value is. Nil and what is not a number are no keys. -/
def keyOf (site : Site) (k : Value) : Machine Key :=
  match Key.ofValue? k with
  | some k => pure k
  | none => match k with
    | .nil => site.fail (textBytes "table index is nil")
    | _ => site.fail (textBytes "table index is NaN")

/-- Sets the value under a key, the metatable not asked. -/
def rawSetValue (site : Site) (ref : Nat) (k v : Value) : Machine Unit := do
  rawSet ref (← keyOf site k) v

/-- What the metatable of a value provides for an event, nil if it provides nothing. -/
def provided (v : Value) (event : String) : Machine Value := do
  match v with
  | .table ref => match ((← get).table ref).metatable with
    | some m => rawGet m (.text event)
    | none => pure .nil
  | .string _ => rawGet Vm.stringMeta (.text event)
  | _ => pure .nil

/-- The name of a value's type in messages: a metatable may give another one. -/
def typeLabel (v : Value) : Machine Bytes := do
  match v, ← provided v "__name" with
  | .table _, .string s => pure s.untilNul
  | _, _ => pure (textBytes v.typeName)

/-- Ends with the message that a value does not allow an action. -/
def refuse {α : Type} (site : Site) (action : String) (v : Value) (naming : Option Naming) :
    Machine α := do
  let label ← typeLabel v
  site.fail (textBytes ("attempt to " ++ action ++ " a ") ++ label ++ textBytes " value"
    ++ Naming.suffix naming)

/-- The longest chain of metatables that is followed. -/
def chainLimit : Nat := 2000

/-- The value under a key, along a chain of metatables. The first argument bounds its length; of the
last one in the chain only what it has itself counts. -/
def indexAlong (call : Caller) (site : Site) (k : Value) :
    Nat → Option Naming → Value → Machine Value
  | 0, _, v => do
    match ← match v with
      | .table ref => rawGetValue ref k
      | _ => pure .nil with
    | .nil => site.fail (textBytes "'__index' chain too long; possibly a loop")
    | found => pure found
  | fuel + 1, naming, v => do
    match v with
    | .table ref => match ← rawGetValue ref k with
      | .nil => match ← provided v "__index" with
        | .nil => pure .nil
        | .function f => Value.head <$> call (site.onEvent "index") f [v, k]
        | next => indexAlong call site k fuel none next
      | found => pure found
    | .object ref => match (← get).objects[ref]? with
      | some o => pure (o.method k)
      | none => pure .nil
    | v => match ← provided v "__index" with
      | .nil => refuse site "index" v naming
      | .function f => Value.head <$> call (site.onEvent "index") f [v, k]
      | next => indexAlong call site k fuel none next

/-- The value under a key of `v`. -/
def index (call : Caller) (site : Site) (naming : Option Naming) (v k : Value) : Machine Value :=
  indexAlong call site k chainLimit naming v

/-- Sets the value under a key, along a chain of metatables. The last one in the chain takes the
value only under a key that it has. -/
def setIndexAlong (call : Caller) (site : Site) (k x : Value) :
    Nat → Option Naming → Value → Machine Unit
  | 0, _, v => do
    let tooLong : Machine Unit :=
      site.fail (textBytes "'__newindex' chain too long; possibly a loop")
    match v with
    | .table ref => match ← rawGetValue ref k with
      | .nil => tooLong
      | _ => rawSetValue site ref k x
    | _ => tooLong
  | fuel + 1, naming, v => do
    match v with
    | .table ref => match ← rawGetValue ref k with
      | .nil => match ← provided v "__newindex" with
        | .nil => rawSetValue site ref k x
        | .function f => discard (call (site.onEvent "newindex") f [v, k, x])
        | next => setIndexAlong call site k x fuel none next
      | _ => rawSetValue site ref k x
    | v => match ← provided v "__newindex" with
      | .nil => refuse site "index" v naming
      | .function f => discard (call (site.onEvent "newindex") f [v, k, x])
      | next => setIndexAlong call site k x fuel none next

/-- Sets the value under a key of `v`. -/
def setIndex (call : Caller) (site : Site) (naming : Option Naming) (v k x : Value) :
    Machine Unit :=
  setIndexAlong call site k x chainLimit naming v

/-- The longest chain of values that are called in place of each other. Each of them takes a slot of
the stack, which has a million. -/
def calleeLimit : Nat := 1000000

/-- The function that is called when `v` is, and its arguments. -/
def calleeAlong (site : Site) (naming : Option Naming) :
    Nat → Value → List Value → Machine (Function × List Value)
  | 0, _, _ => site.fail (textBytes "stack overflow")
  | _ + 1, .function f, args => pure (f, args)
  | fuel + 1, v, args => do
    match ← provided v "__call" with
    | .nil => refuse site "call" v naming
    | next => calleeAlong site naming fuel next (v :: args)

/-- The function that is called when `v` is, and its arguments. -/
def callee (site : Site) (naming : Option Naming) (v : Value) (args : List Value) :
    Machine (Function × List Value) :=
  calleeAlong site naming calleeLimit v args

/-- Calls a value. -/
def callValue (call : Caller) (site : Site) (v : Value) (args : List Value) :
    Machine (List Value) := do
  let (f, args) ← callee site site.naming v args
  call site f args

/-- The text of a value that is shown without asking anyone: an object by its kind and number. -/
def plainText (v : Value) : Machine Bytes := do
  let numbered := fun (ref : Nat) => do
    let label ← typeLabel v
    pure (label ++ textBytes ": 0x" ++ textBytes (String.ofList
      ((Nat.toDigits 16 (0x10000 + 64 * ref)).leftpad 12 '0')))
  match v with
  | .nil => pure (textBytes "nil")
  | .boolean b => pure (textBytes (if b then "true" else "false"))
  | .number n => pure n.bytes
  | .string s => pure s
  | .table ref => numbered ref
  | .function f => numbered f.id
  | .thread ref => numbered ref
  | .object ref => numbered ref
  | .fault f => pure (textBytes f.display)

/-- The text of a value. -/
def textOf (call : Caller) (site : Site) (v : Value) : Machine Bytes := do
  match ← provided v "__tostring" with
  | .nil => plainText v
  | f => match Value.head (← callValue call site.inner f [v]) with
    | .string s => pure s
    | .number n => pure n.bytes
    | _ => site.fail (textBytes "'__tostring' must return a string")

/-- The text of a text or number. -/
def rawText? : Value → Option Bytes
  | .string s => some s
  | .number n => some n.bytes
  | _ => none

/-- Two values put one behind the other. -/
def join (call : Caller) (site : Site) (a b : Value × Option Naming) : Machine Value := do
  match rawText? a.1, rawText? b.1 with
  | some s, some t => pure (.string (s ++ t))
  | s, _ => match ← provided a.1 "__concat" with
    | .nil => match ← provided b.1 "__concat" with
      | .nil =>
        let (v, naming) := if s.isSome then b else a
        refuse site "concatenate" v naming
      | f => Value.head <$> callValue call (site.onEvent "concat") f [a.1, b.1]
    | f => Value.head <$> callValue call (site.onEvent "concat") f [a.1, b.1]

/-- Values put one behind the other, from the last one on. -/
def joinAll (call : Caller) (site : Site) : List (Value × Option Naming) → Machine Value
  | [] => pure (.string [])
  | [v] => pure v.1
  | v :: rest => do
    let tail ← joinAll call site rest
    let naming := match rest with
      | [w] => w.2
      | _ => none
    join call site v (tail, naming)

/-- The length of a value. -/
def lengthOf (call : Caller) (site : Site) (naming : Option Naming) (v : Value) :
    Machine Value := do
  match v with
  | .string s => pure (.integer (Int64.ofNat s.length))
  | v => match ← provided v "__len" with
    | .nil => match v with
      | .table ref => pure (.integer (Int64.ofNat ((← get).table ref).length))
      | v => refuse site "get length of" v naming
    | f => Value.head <$> callValue call (site.onEvent "len") f [v, v]

/-- Whether two values are equal; two tables may say so by their metatables. -/
def equal (call : Caller) (site : Site) (a b : Value) : Machine Bool := do
  match a, b with
  | .table r, .table s =>
    if r = s then pure true
    else match ← provided a "__eq" with
      | .nil => match ← provided b "__eq" with
        | .nil => pure false
        | f => (·.truthy) <$> Value.head <$> callValue call (site.onEvent "eq") f [a, b]
      | f => (·.truthy) <$> Value.head <$> callValue call (site.onEvent "eq") f [a, b]
  | a, b => pure (a.same b)

end Machine

end Script

end EventScripts
