/-!
# Bit operations on 64-bit integers

The functions of the `bit` library. `bandAll`, `borAll` and `bxorAll` join any number of
integers, starting from the value that changes nothing. Shifts take a count of 32 bits: from 64
on nothing of the integer is left, except for its sign in `ashr`.
-/

set_option autoImplicit false

namespace EventScripts

namespace Bits

/-- All integers joined by "and"; all bits set when there is none. -/
def bandAll (xs : List Int64) : Int64 := xs.foldl (· &&& ·) (-1)

/-- All integers joined by "or". -/
def borAll (xs : List Int64) : Int64 := xs.foldl (· ||| ·) 0

/-- All integers joined by "exclusive or". -/
def bxorAll (xs : List Int64) : Int64 := xs.foldl (· ^^^ ·) 0

/-- Every bit turned over. -/
def bnot (x : Int64) : Int64 := ~~~x

/-- Shifts to the left, zeros coming in. -/
def shl (x : Int64) (n : UInt32) : Int64 :=
  if n < 64 then x <<< n.toUInt64.toInt64 else 0

/-- Shifts to the right, zeros coming in. -/
def shr (x : Int64) (n : UInt32) : Int64 :=
  if n < 64 then (x.toUInt64 >>> n.toUInt64).toInt64 else 0

/-- Shifts to the right, copies of the sign coming in. -/
def ashr (x : Int64) (n : UInt32) : Int64 :=
  x >>> (min n 63).toUInt64.toInt64

end Bits

end EventScripts
