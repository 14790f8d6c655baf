/-!
# Double-precision numbers as exact fractions

A finite double is `± mantissa · 2 ^ exponent` with natural `mantissa`. `Binary64.parts` takes a
double apart in this way and `Binary64.nearest` goes back from any fraction to the double nearest
to it, ties to the even mantissa. Everything that prints or reads doubles goes through these two,
so no digit depends on the accuracy of floating-point arithmetic.
-/

set_option autoImplicit false

namespace EventScripts

namespace Binary64

/-- Sign, mantissa and binary exponent of a finite double. -/
structure Parts where
  negative : Bool
  mantissa : Nat
  exponent : Int
  deriving DecidableEq

/-- The sign bit, of zeros and infinities too. -/
def isNegative (x : Float) : Bool :=
  x.toBits.toNat ≥ Nat.pow 2 63

/-- The parts of a finite double; `none` for infinities and for what is not a number. -/
def parts (x : Float) : Option Parts :=
  let bits := x.toBits.toNat
  let fraction := bits % Nat.pow 2 52
  let biased : Nat := bits / Nat.pow 2 52 % Nat.pow 2 11
  if biased = 2047 then none
  else if biased = 0 then some ⟨isNegative x, fraction, -1074⟩
  else some ⟨isNegative x, Nat.pow 2 52 + fraction, Int.ofNat biased - 1075⟩

/-- The size of a finite double as a fraction `(numerator, denominator)`. -/
def Parts.fraction (p : Parts) : Nat × Nat :=
  match p.exponent with
  | .ofNat e => (p.mantissa * Nat.pow 2 e, 1)
  | .negSucc e => (p.mantissa, Nat.pow 2 (e + 1))

/-- The quotient rounded to the nearest whole number, a half to the even one. -/
def roundDiv (num den : Nat) : Nat :=
  let q := num / den
  let r := num % den
  if 2 * r > den || (2 * r = den && q % 2 = 1) then q + 1 else q

/-- A fraction scaled by `2 ^ -e` and rounded to a whole number. -/
def scaledRound (num den : Nat) : Int → Nat
  | .ofNat e => roundDiv num (den * Nat.pow 2 e)
  | .negSucc e => roundDiv (num * Nat.pow 2 (e + 1)) den

/-- A fraction scaled by `2 ^ -e` and cut to a whole number. -/
def scaledFloor (num den : Nat) : Int → Nat
  | .ofNat e => num / (den * Nat.pow 2 e)
  | .negSucc e => num * Nat.pow 2 (e + 1) / den

/-- The double with this sign, mantissa below `2 ^ 53` and exponent from `-1074` up. -/
def assemble (negative : Bool) (mantissa : Nat) (exponent : Int) : Float :=
  let size : Nat :=
    if exponent > 971 then 2047 * Nat.pow 2 52
    else if mantissa < Nat.pow 2 52 then mantissa
    else (exponent + 1075).toNat * Nat.pow 2 52 + (mantissa - Nat.pow 2 52)
  Float.ofBits (UInt64.ofNat (size + if negative then Nat.pow 2 63 else 0))

/-- The double nearest to `± num / den`, ties to the even mantissa; infinite when it is too
large for every finite double. -/
def nearest (negative : Bool) (num den : Nat) : Float :=
  if num = 0 || den = 0 then assemble negative 0 (-1074)
  else
    let guess : Int := (Nat.log2 num : Int) - Nat.log2 den - 53
    let fitted := if scaledFloor num den guess ≥ Nat.pow 2 53 then guess + 1 else guess
    let exponent := max (-1074) fitted
    let mantissa := scaledRound num den exponent
    if mantissa = Nat.pow 2 53 then assemble negative (Nat.pow 2 52) (exponent + 1)
    else assemble negative mantissa exponent

/-- The double nearest to `± m · 10 ^ e`. Exponents beyond the reach of doubles are cut, so the
fraction stays small. -/
def ofDecimal (negative : Bool) (m : Nat) (e : Int) : Float :=
  let reach : Int := 400 + (Nat.toDigits 10 m).length
  match max (-reach) (min 400 e) with
  | .ofNat k => nearest negative (m * Nat.pow 10 k) 1
  | .negSucc k => nearest negative m (Nat.pow 10 (k + 1))

/-- The double nearest to `± m · 2 ^ e`. -/
def ofDyadic (negative : Bool) (m : Nat) (e : Int) : Float :=
  let reach : Int := 1200 + Nat.log2 m
  match max (-reach) (min 1200 e) with
  | .ofNat k => nearest negative (m * Nat.pow 2 k) 1
  | .negSucc k => nearest negative m (Nat.pow 2 (k + 1))

/-- The whole part of a finite double, cut toward zero. -/
def truncate? (x : Float) : Option Int :=
  (parts x).map fun p =>
    let (num, den) := p.fraction
    if p.negative then -((num / den : Nat) : Int) else ((num / den : Nat) : Int)

/-- The whole number that a double is equal to, if there is one. -/
def whole? (x : Float) : Option Int :=
  (parts x).bind fun p =>
    let (num, den) := p.fraction
    if num % den ≠ 0 then none
    else if p.negative then some (-((num / den : Nat) : Int))
    else some ((num / den : Nat) : Int)

end Binary64

end EventScripts
