import EventScripts.Script.Native.Require

/-!
# Functions of the standard library

The functions that scripts use. Protected calls end with `true` and the results, or with `false`
and the error value; `xpcall` shows the error value to a handler first, and as long as the handler
itself fails, shows it that error in turn.
-/

set_option autoImplicit false

namespace EventScripts

namespace Script

/-- How many times the machine can be entered anew before a call fails. -/
def nestedLimit : Nat := 200

/-- How many times the machine can be entered anew while such a failure is handled. -/
def nestedReserve : Nat := 220

/-- The error value when handling an error does not come to an end. -/
def handlingFailed : Value := .text "error in error handling"

/-- Shows an error value to a handler, and the handler's own errors too; the first argument bounds
how often. -/
def handled (call : Caller) (site : Site) (handler : Value) : Nat → Value → Machine Value
  | 0, _ => pure handlingFailed
  | rounds + 1, e => do
    let site := { site.inner with nested := nestedReserve - rounds }
    match ← Machine.outcome (Machine.callValue call site handler [e]) with
    | .ok results => pure (Value.head results)
    | .error e => handled call site handler rounds e

/-- Raises an error value. A text gets the position of the level in front. -/
def raiseError (site : Site) (args : List Value) : Machine (List Value) := do
  let level ← integerArgumentOr site "error" 2 args 1
  match Value.head args with
  | .string s =>
    if 0 < level then throw (.string (site.position level.toInt.toNat ++ s))
    else throw (.string s)
  | v => throw v

/-- Arguments from a place on, or their number. -/
def selectArguments (site : Site) (args : List Value) : Machine (List Value) := do
  let rest := args.tail
  match Value.head args with
  | .string (0x23 :: _) => pure [.integer (Int64.ofNat rest.length)]
  | _ =>
    let n ← integerArgument site "select" 1 args
    if n < 0 then
      let places := n.toInt.natAbs
      if places ≤ rest.length then pure (rest.drop (rest.length - places))
      else site.badArgument "select" 1 (textBytes "index out of range")
    else if n = 0 then site.badArgument "select" 1 (textBytes "index out of range")
    else pure (rest.drop (n.toInt.toNat - 1))

/-- Gives a table a metatable, or takes it away. -/
def changeMetatable (site : Site) (args : List Value) : Machine (List Value) := do
  let ref ← tableArgument site "setmetatable" 1 args
  let metatable : Option Nat ← match (args[1]? : Option Value) with
    | some .nil => pure none
    | some (.table m) => pure (some m)
    | _ => site.badType "setmetatable" 2 "nil or table" args
  match ← Machine.provided (.table ref) "__metatable" with
  | .nil =>
    Machine.changeTable ref fun t => { t with metatable }
    pure [.table ref]
  | _ => site.fail (textBytes "cannot change a protected metatable")

/-- The metatable of a value, or what it shows instead of itself. -/
def shownMetatable (site : Site) (args : List Value) : Machine (List Value) := do
  let v ← anyArgument site "getmetatable" 1 args
  let metatable ← match v with
    | .table ref => pure (((← get).table ref).metatable.map Value.table)
    | .string _ => pure (some (.table Vm.stringMeta))
    | .object _ | .fault _ => pure (some (.boolean false))
    | _ => pure none
  match metatable with
  | none => pure [.nil]
  | some m => match ← Machine.provided v "__metatable" with
    | .nil => pure [m]
    | shown => pure [shown]

/-- The largest length of a text. -/
def largestText : Nat := Nat.pow 2 63 - 1

/-- A text repeated. -/
def repeatText (site : Site) (args : List Value) : Machine (List Value) := do
  let s ← textArgument site "string.rep" 1 args
  let n ← integerArgument site "string.rep" 2 args
  let separator ← match args[2]? with
    | none | some .nil => pure []
    | some _ => textArgument site "string.rep" 3 args
  if n ≤ 0 then pure [.string []]
  else
    let count := n.toInt.toNat
    if s.length + separator.length > largestText / count then
      site.fail (textBytes "resulting string too large")
    else pure [.string (joined separator (List.replicate count s))]

/-- Fills the directives of a format; `place` is the place of the next argument. -/
def fillFormat (call : Caller) (site : Site) (args : List Value) :
    Nat → Bytes → Machine Bytes
  | _, [] => pure []
  | place, 0x25 :: 0x25 :: rest => do
    pure (0x25 :: (← fillFormat call site args place rest))
  | place, 0x25 :: directive :: rest => do
    if args.length < place then
      site.badArgument "string.format" place (textBytes "no value")
    else
      let part ← if directive == 0x69 || directive == 0x64 then do
          let i ← integerArgument site "string.format" place args
          pure (Number.bytes (.integer i))
        else if directive == 0x73 then
          Machine.textOf call site (args[place - 1]?.getD .nil)
        else
          site.fail (textBytes "invalid conversion '%" ++ [directive]
            ++ textBytes "' to 'format'")
      pure (part ++ (← fillFormat call site args (place + 1) rest))
  | _, [0x25] => site.fail (textBytes "invalid conversion '%' to 'format'")
  | place, b :: rest => do
    pure (b :: (← fillFormat call site args place rest))

/-- An ASCII letter as a small one. -/
def lowerByte (b : UInt8) : UInt8 := if 0x41 ≤ b && b ≤ 0x5A then b + 0x20 else b

/-- An ASCII letter as a capital one. -/
def upperByte (b : UInt8) : UInt8 := if 0x61 ≤ b && b ≤ 0x7A then b - 0x20 else b

/-- The text of a message with a trace. Texts and numbers are cut at their first NUL; nothing and
threads have only a trace, and other values stay as they are. -/
def tracedMessage (args : List Value) : List Value :=
  let args := match args with
    | .thread _ :: rest => rest
    | args => args
  match Value.head args with
  | .nil => [.text traceMark]
  | v => match Machine.rawText? v with
    | some s => [.string (s.untilNul ++ textBytes "\n" ++ textBytes traceMark)]
    | none => [v]

/-- Calls a function of the standard library. -/
def Basic.run (call : Caller) (site : Site) (f : Basic) (args : List Value) :
    Machine (List Value) := do
  match f with
  | .collect => pure [.integer 0]
  | .coroutineCreate =>
    discard (functionArgument site "coroutine.create" 1 args)
    let t ← Machine.newThread
    pure [t]
  | .error => raiseError site args
  | .format =>
    let pattern ← textArgument site "string.format" 1 args
    let s ← fillFormat call site args 2 pattern
    pure [.string s]
  | .getMetatable => shownMetatable site args
  | .isYieldable => pure [.boolean false]
  | .length =>
    let s ← textArgument site "string.len" 1 args
    pure [.integer (Int64.ofNat s.length)]
  | .lower =>
    let s ← textArgument site "string.lower" 1 args
    pure [.string (s.map lowerByte)]
  | .pcall =>
    let f ← anyArgument site "pcall" 1 args
    match ← Machine.outcome (Machine.callValue call site.inner f args.tail) with
    | .ok results => pure (.boolean true :: results)
    | .error e => pure [.boolean false, e]
  | .print =>
    for v in args do
      discard (Machine.textOf call site v)
    pure []
  | .rawEqual =>
    let a ← anyArgument site "rawequal" 1 args
    let b ← anyArgument site "rawequal" 2 args
    pure [.boolean (a.same b)]
  | .rawGet =>
    let ref ← tableArgument site "rawget" 1 args
    let k ← anyArgument site "rawget" 2 args
    let v ← Machine.rawGetValue ref k
    pure [v]
  | .rawLength => match args.head? with
    | some (.table ref) => pure [.integer (Int64.ofNat ((← get).table ref).length)]
    | some (.string s) => pure [.integer (Int64.ofNat s.length)]
    | _ => site.badArgument "rawlen" 1 (textBytes "table or string expected")
  | .rawSet =>
    let ref ← tableArgument site "rawset" 1 args
    let k ← anyArgument site "rawset" 2 args
    let v ← anyArgument site "rawset" 3 args
    -- What is no key is complained about without a place.
    Machine.rawSetValue site.inner ref k v
    pure [.table ref]
  | .rep => repeatText site args
  | .require => requireModule call site args
  | .reverse =>
    let s ← textArgument site "string.reverse" 1 args
    pure [.string s.reverse]
  | .select => selectArguments site args
  | .setMetatable => changeMetatable site args
  | .toString =>
    let v ← anyArgument site "tostring" 1 args
    let s ← Machine.textOf call site v
    pure [.string s]
  | .traceback => pure (tracedMessage args)
  | .type =>
    let v ← anyArgument site "type" 1 args
    pure [.text v.typeName]
  | .upper =>
    let s ← textArgument site "string.upper" 1 args
    pure [.string (s.map upperByte)]
  | .xpcall =>
    let handler ← functionArgument site "xpcall" 2 args
    match ← Machine.outcome (Machine.callValue call site.inner (Value.head args)
        (args.drop 2)) with
    | .ok results => pure (.boolean true :: results)
    | .error e =>
      let v ← handled call site handler (nestedReserve - site.nested - 1) e
      pure [.boolean false, v]
  | .searchPreload =>
    let name ← textArgument site "?" 1 args
    preloadedLoader name
  | .searchScripts =>
    let name ← textArgument site "?" 1 args
    searchFiles call site "path" name
  | .searchNative =>
    let name ← textArgument site "?" 1 args
    searchFiles call site "cpath" name
  | .searchNativeRoot =>
    let name ← textArgument site "?" 1 args
    if name.any (· == 0x2E) then
      searchFiles call site "cpath" (name.takeWhile (· != 0x2E))
    else pure []

end Script

end EventScripts
