import EventScripts.Number.Binary64

/-!
# Decimal texts of doubles

Two ways to write a double in decimal, both computed from its exact value:

* `generalText p x` has `p` significant digits, correctly rounded, without trailing zeros;
  positional while the decimal exponent is from `-4` up to below `p`, scientific beyond;
* `plainText x` has the fewest digits that read back as `x`, always positional.
-/

set_option autoImplicit false

namespace EventScripts

namespace Binary64

/-- Decimal digits of a natural number. -/
def digits (n : Nat) : List Char :=
  Nat.toDigits 10 n

/-- The least `j`, from `j` on, with `den ≤ num · 10 ^ j`, looking at most `fuel` places far. -/
def leadingZeros (num den : Nat) : Nat → Nat → Nat
  | 0, j => j
  | fuel + 1, j => if den ≤ num * Nat.pow 10 j then j else leadingZeros num den fuel (j + 1)

/-- The decimal exponent of a positive fraction: `10 ^ k ≤ num / den < 10 ^ (k + 1)`. -/
def decimalExponent (num den : Nat) : Int :=
  if num ≥ den then ((digits (num / den)).length : Int) - 1
  else -((leadingZeros num den 400 1 : Nat) : Int)

/-- `num / den · 10 ^ -t` as a fraction. -/
def scaleDecimal (num den : Nat) : Int → Nat × Nat
  | .ofNat t => (num, den * Nat.pow 10 t)
  | .negSucc t => (num * Nat.pow 10 (t + 1), den)

/-- The decimal significand of `p` digits nearest to a positive fraction, and the exponent of its
first digit. -/
def significant (p : Nat) (num den : Nat) : Nat × Int :=
  let k := decimalExponent num den
  let (n, d) := scaleDecimal num den (k - (p : Int) + 1)
  let m := roundDiv n d
  if m ≥ Nat.pow 10 p then (Nat.pow 10 (p - 1), k + 1) else (m, k)

/-- Drops the trailing zeros of a list of digits. -/
def dropTrailingZeros (ds : List Char) : List Char :=
  (ds.reverse.dropWhile (· == '0')).reverse

/-- Digits with a point in front of the last `frac` of them; no point when nothing follows it. -/
def pointed (whole frac : List Char) : List Char :=
  if frac.isEmpty then whole else whole ++ '.' :: frac

/-- A decimal exponent with its sign and at least two digits. -/
def exponentText (k : Int) : List Char :=
  let ds := digits k.natAbs
  'e' :: (if k < 0 then '-' else '+') :: (if ds.length < 2 then '0' :: ds else ds)

/-- The text of a positive decimal significand of `p` digits whose first digit stands at the
exponent `k`. -/
def generalDigits (p : Nat) (m : Nat) (k : Int) : List Char :=
  let ds := digits m
  if k < -4 || k ≥ p then
    pointed (ds.take 1) (dropTrailingZeros (ds.drop 1)) ++ exponentText k
  else if k < 0 then
    pointed ['0'] (dropTrailingZeros (List.replicate (k.natAbs - 1) '0' ++ ds))
  else
    pointed (ds.take (k.toNat + 1)) (dropTrailingZeros (ds.drop (k.toNat + 1)))

/-- A minus sign in front when asked for. -/
def signed (negative : Bool) (text : List Char) : List Char :=
  if negative then '-' :: text else text

/-- The text with `p` significant digits. What is not a number shows the sign that a division of
zero by zero leaves. -/
def generalText (p : Nat) (x : Float) : List Char :=
  match parts x with
  | none => if x.isNaN then "-nan".toList else signed (isNegative x) "inf".toList
  | some q =>
    let (num, den) := q.fraction
    signed q.negative <|
      if num = 0 then ['0']
      else
        let (m, k) := significant p num den
        generalDigits p m k

/-- Whether `d · 10 ^ t` lies among the reals that round to the double: between `lo` and `hi`
quarters of its last place `2 ^ e`, the ends counted when `ends` holds. -/
def readsBack (lo hi : Nat) (e : Int) (ends : Bool) (d : Nat) (t : Int) : Bool :=
  let (dn, dd) : Nat × Nat := match t with
    | .ofNat k => (d * Nat.pow 10 k, 1)
    | .negSucc k => (d, Nat.pow 10 (k + 1))
  let (un, ud) : Nat × Nat := match e - 2 with
    | .ofNat k => (Nat.pow 2 k, 1)
    | .negSucc k => (1, Nat.pow 2 (k + 1))
  let here := dn * ud
  let least := lo * un * dd
  let most := hi * un * dd
  if ends then least ≤ here && here ≤ most else least < here && here < most

/-- The shortest decimal that reads back, trying `n, n + 1, …` digits for `fuel` rounds: its
digits and the exponent of the last one. -/
def shortestFrom (q : Parts) : Nat → Nat → Nat × Int
  | 0, n =>
    let (num, den) := q.fraction
    let (m, k) := significant n num den
    (m, k - (n : Int) + 1)
  | fuel + 1, n =>
    let (num, den) := q.fraction
    let t := decimalExponent num den - (n : Int) + 1
    let (a, b) := scaleDecimal num den t
    let below := a / b
    let lo := if q.mantissa = Nat.pow 2 52 && q.exponent > -1074 then 4 * q.mantissa - 1
      else 4 * q.mantissa - 2
    let hits := fun d => readsBack lo (4 * q.mantissa + 2) q.exponent (q.mantissa % 2 = 0) d t
    match hits below, hits (below + 1) with
    | true, true => if 2 * (a % b) > b then (below + 1, t) else (below, t)
    | true, false => (below, t)
    | false, true => (below + 1, t)
    | false, false => shortestFrom q fuel (n + 1)

/-- Digits at a decimal exponent, written positionally. -/
def positional (d : Nat) : Int → List Char
  | .ofNat t => digits d ++ List.replicate t '0'
  | .negSucc t =>
    let ds := digits d
    let frac := t + 1
    if ds.length > frac then
      pointed (ds.take (ds.length - frac)) (dropTrailingZeros (ds.drop (ds.length - frac)))
    else pointed ['0'] (dropTrailingZeros (List.replicate (frac - ds.length) '0' ++ ds))

/-- The text with the fewest digits that read back, never scientific. -/
def plainText (x : Float) : List Char :=
  match parts x with
  | none => if x.isNaN then "NaN".toList else signed (isNegative x) "inf".toList
  | some q =>
    signed q.negative <|
      if q.mantissa = 0 then ['0']
      else
        let (d, t) := shortestFrom q 17 1
        positional d t

end Binary64

end EventScripts
