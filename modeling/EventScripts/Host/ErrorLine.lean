/-!
# The line an error message blames

Messages of errors in a plugin or in the script file begin with the name of the chunk and a line
of a source that can be edited. Such a message without digits, or with a number of more than 32
bits, blames line zero.
-/

set_option autoImplicit false

namespace EventScripts

/-- The beginnings of messages that blame a line of a source. -/
def editableChunks : List String := ["[string \"Plugin\"]:", "[string \"Script file\"]:"]

/-- What follows a beginning, if the characters have it. -/
def afterStart? : List Char → List Char → Option (List Char)
  | [], cs => some cs
  | _ :: _, [] => none
  | s :: ss, c :: cs => if s == c then afterStart? ss cs else none

/-- The value of decimal digits. -/
def decimalValue (ds : List Char) : Nat :=
  ds.foldl (fun n c => n * 10 + (c.toNat - '0'.toNat)) 0

/-- The number at the front, zero if there is none or it does not fit 32 bits. -/
def leadingLine (cs : List Char) : Nat :=
  let n := decimalValue (cs.takeWhile Char.isDigit)
  if n < UInt32.size then n else 0

/-- The line that a message blames. -/
def errorLine? (message : String) : Option Nat :=
  (editableChunks.findSome? fun start => afterStart? start.toList message.toList).map leadingLine

end EventScripts
