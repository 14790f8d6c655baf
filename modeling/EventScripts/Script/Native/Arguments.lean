import EventScripts.Script.Access

/-!
# Arguments of native functions

Two families of native functions take their arguments differently. Functions of the standard
library complain with a message that names the argument and the function. Functions of the
engine's own libraries and of the host fail with a fault, which carries a trace; they convert
freely: integers are also taken from doubles, cut toward zero, and from numerals, texts also from
numbers, but a text must be valid UTF-8.
-/

set_option autoImplicit false

namespace EventScripts

namespace Script

/-- What stands in messages for the text of a trace, which is not modelled. -/
def traceMark : String := "<traceback>"

namespace Site

/-- Complains about an argument; `own` is the name of the function if the site has none for it. -/
def badArgument {α : Type} (site : Site) (own : String) (place : Nat) (complaint : Bytes) :
    Machine α :=
  let numbered := fun (place : Nat) (name : Bytes) =>
    textBytes "bad argument #" ++ Number.bytes (.integer (Int64.ofNat place)) ++ textBytes " to '"
      ++ name ++ textBytes "' (" ++ complaint ++ textBytes ")"
  match site.naming with
  | none => site.fail (numbered place (textBytes own))
  | some n =>
    let name := n.name.untilNul
    if n.kind == "method" then
      if place = 1 then
        site.fail (textBytes "calling '" ++ name ++ textBytes "' on bad self (" ++ complaint
          ++ textBytes ")")
      else site.fail (numbered (place - 1) name)
    else site.fail (numbered place name)

/-- Complains about the type of an argument. -/
def badType {α : Type} (site : Site) (own : String) (place : Nat) (expected : String)
    (args : List Value) : Machine α := do
  let got ← match args[place - 1]? with
    | some v => Machine.typeLabel v
    | none => pure (textBytes "no value")
  site.badArgument own place (textBytes (expected ++ " expected, got ") ++ got)

/-- A fault on its way out of a native function. -/
def fault {α : Type} (_site : Site) (cause : Fault) : Machine α :=
  throw (.fault (.wrapped traceMark cause))

end Site

/-- A text argument; numbers are taken by their text. -/
def textArgument (site : Site) (own : String) (place : Nat) (args : List Value) :
    Machine Bytes :=
  match (args[place - 1]?).bind Machine.rawText? with
  | some s => pure s
  | none => site.badType own place "string" args

/-- An integer argument; doubles and numerals are taken if they are whole. -/
def integerArgument (site : Site) (own : String) (place : Nat) (args : List Value) :
    Machine Int64 :=
  let number : Option Number := match args[place - 1]? with
    | some (.number n) => some n
    | some (.string s) => Number.read? s
    | _ => none
  match number with
  | some (.integer i) => pure i
  | some (.double x) => match wholeInteger? x with
    | some i => pure i
    | none => site.badArgument own place (textBytes "number has no integer representation")
  | none => site.badType own place "number" args

/-- An integer argument that may be left out. -/
def integerArgumentOr (site : Site) (own : String) (place : Nat) (args : List Value)
    (default : Int64) : Machine Int64 :=
  match args[place - 1]? with
  | none | some .nil => pure default
  | some _ => integerArgument site own place args

/-- An argument that must be there, whatever it is. -/
def anyArgument (site : Site) (own : String) (place : Nat) (args : List Value) : Machine Value :=
  match args[place - 1]? with
  | some v => pure v
  | none => site.badArgument own place (textBytes "value expected")

/-- A table argument. -/
def tableArgument (site : Site) (own : String) (place : Nat) (args : List Value) : Machine Nat :=
  match args[place - 1]? with
  | some (.table ref) => pure ref
  | _ => site.badType own place "table" args

/-- A function argument. -/
def functionArgument (site : Site) (own : String) (place : Nat) (args : List Value) :
    Machine Value :=
  match args[place - 1]? with
  | some (.function f) => pure (.function f)
  | _ => site.badType own place "function" args

namespace Value

/-- The number that a number or numeral is. -/
def number? : Value → Option Number
  | .number n => some n
  | .string s => Number.read? s
  | _ => none

/-- The integer that a value converts to, doubles cut toward zero. -/
def toInteger? (v : Value) : Option Int :=
  match v.number? with
  | some (.integer i) => some i.toInt
  | some (.double x) => Binary64.truncate? x
  | none => none

/-- The signed 64-bit integer that a value converts to. -/
def toInt64? (v : Value) : Option Int64 :=
  v.toInteger?.bind fun i =>
    if Int64.minValue.toInt ≤ i && i ≤ Int64.maxValue.toInt then some (Int64.ofInt i) else none

/-- The natural number below a bound that a value converts to. -/
def toNat? (bound : Nat) (v : Value) : Option Nat :=
  v.toInteger?.bind fun i => if 0 ≤ i && i < bound then some i.toNat else none

/-- The text that a value converts to. -/
def toText? (v : Value) : Option String :=
  (Machine.rawText? v).bind Bytes.text?

/-- A value that may be left out: nil counts as nothing. -/
def toOptional? {α : Type} (convert : Value → Option α) : Value → Option (Option α)
  | .nil => some none
  | v => (convert v).map some

end Value

/-- A conversion of the argument at a place, counted from one; one that is missing is nil. -/
def converted {α : Type} (site : Site) (args : List Value) (place : Nat)
    (convert : Value → Option α) : Machine α :=
  match convert (args[place - 1]?.getD .nil) with
  | some a => pure a
  | none => site.fault (.argument "bad argument")

end Script

end EventScripts
