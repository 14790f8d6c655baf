import EventScripts.Script.Native.Arguments

/-!
# What became of a dispatch

A call that was made is read by its first result: a truth value counts as it is, anything else as
a number, and a number is a success whatever its value. The text of a result is kept byte for
byte.
-/

set_option autoImplicit false

namespace EventScripts

open Script

/-- What a dispatch did. -/
inductive Outcome (α : Type) where
  /-- No machine, or a broken token: nothing was called. -/
  | skipped
  | invoked (a : α)

namespace Outcome

/-- Whether nothing was called. -/
def isSkipped {α : Type} : Outcome α → Bool
  | .skipped => true
  | .invoked _ => false

/-- What a call gave. -/
def invoked? {α : Type} : Outcome α → Option α
  | .skipped => none
  | .invoked a => some a

end Outcome

/-- A result as the host reads it. -/
inductive Scalar where
  | boolean (b : Bool)
  | number (x : Float)

namespace Scalar

/-- The result of a function that returns nothing. -/
def default : Scalar := .boolean true

/-- Only `false` is no success. -/
def isTruthy : Scalar → Bool
  | .boolean b => b
  | .number _ => true

/-- The result as a number. -/
def asNumber : Scalar → Float
  | .boolean b => if b then 1 else 0
  | .number x => x

/-- The first result, values that are no number being zero. -/
def ofResults : List Value → Scalar
  | [] => default
  | .boolean b :: _ => .boolean b
  | v :: _ => .number ((v.number?.map Number.toDouble).getD 0)

end Scalar

/-- The bytes of the first result, if it is a text or a number. -/
def resultText : List Value → Option Bytes
  | [] => none
  | v :: _ => Machine.rawText? v

end EventScripts
