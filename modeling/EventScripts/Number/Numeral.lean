import EventScripts.Bytes
import EventScripts.Number.DoubleText

/-!
# Numbers of the script language and their texts

A number is a 64-bit integer or a double. `Number.text` writes one, `Number.read?` reads the
numeral a byte string holds: surrounding blanks, a sign, decimal or hexadecimal digits. Decimal
numerals too large for an integer become doubles, hexadecimal ones wrap around; a point or an
exponent makes a double. Names of infinities are no numerals.
-/

set_option autoImplicit false

namespace EventScripts

/-- A number of the script language. -/
inductive Number where
  | integer (i : Int64)
  | double (x : Float)

namespace Number

/-- The number as a double. -/
def toDouble : Number → Float
  | .integer i => i.toFloat
  | .double x => x

/-- Decimal text of an integer. -/
def integerText (i : Int) : List Char :=
  Binary64.signed (i < 0) (Binary64.digits i.natAbs)

/-- Text of a double: fourteen significant digits, and `.0` behind one that would read as an
integer. -/
def doubleText (x : Float) : List Char :=
  let text := Binary64.generalText 14 x
  if text.all fun c => c == '-' || c.isDigit then text ++ ['.', '0'] else text

/-- The text a number has in the script language. -/
def text : Number → List Char
  | .integer i => integerText i.toInt
  | .double x => doubleText x

/-- The bytes of a number's text, which is ASCII. -/
def bytes (n : Number) : Bytes :=
  n.text.map fun c => c.val.toUInt8

/-- Blanks that may surround a numeral. -/
def isBlank (c : Char) : Bool :=
  c == ' ' || ('\t' ≤ c && c ≤ '\r')

/-- The value of a hexadecimal digit. -/
def hexValue? (c : Char) : Option Nat :=
  if c.isDigit then some (c.toNat - '0'.toNat)
  else if 'a' ≤ c && c ≤ 'f' then some (c.toNat - 'a'.toNat + 10)
  else if 'A' ≤ c && c ≤ 'F' then some (c.toNat - 'A'.toNat + 10)
  else none

/-- The number that a run of digits writes. -/
def digitsValue (base : Nat) (ds : List Char) : Nat :=
  ds.foldl (fun n c => n * base + (hexValue? c).getD 0) 0

/-- Takes a sign off the front: whether it is a minus, and the rest. -/
def takeSign : List Char → Bool × List Char
  | '-' :: cs => (true, cs)
  | '+' :: cs => (false, cs)
  | cs => (false, cs)

/-- Takes the mark of a hexadecimal numeral off the front. -/
def hexBody? : List Char → Option (List Char)
  | '0' :: 'x' :: cs => some cs
  | '0' :: 'X' :: cs => some cs
  | _ => none

/-- An exponent introduced by one of two letters: `0` when there is none, `none` when its digits
are missing or something follows it. -/
def exponent? (lower upper : Char) : List Char → Option Int
  | [] => some 0
  | c :: cs =>
    if c == lower || c == upper then
      let (negative, ds) := takeSign cs
      if ds.isEmpty || !ds.all Char.isDigit then none
      else
        let n := digitsValue 10 ds
        some (if negative then -(n : Int) else n)
    else none

/-- Splits off the digits, the digits behind a point, and what follows. -/
def mantissa (isDigit : Char → Bool) (cs : List Char) : List Char × List Char × List Char :=
  let whole := cs.takeWhile isDigit
  match cs.dropWhile isDigit with
  | '.' :: rest => (whole, rest.takeWhile isDigit, rest.dropWhile isDigit)
  | rest => (whole, [], rest)

/-- An integer numeral without blanks. Decimal numerals have to fit. -/
def readInteger? (cs : List Char) : Option Int64 :=
  let (negative, body) := takeSign cs
  match hexBody? body with
  | some ds =>
    if ds.isEmpty || !ds.all (fun c => (hexValue? c).isSome) then none
    else
      let n : Int := digitsValue 16 ds
      some (Int64.ofInt (if negative then -n else n))
  | none =>
    if body.isEmpty || !body.all Char.isDigit then none
    else
      let n : Int := digitsValue 10 body
      let i := if negative then -n else n
      if Int64.minValue.toInt ≤ i && i ≤ Int64.maxValue.toInt then some (Int64.ofInt i) else none

/-- A numeral without blanks, read as a double. -/
def readDouble? (cs : List Char) : Option Float :=
  let (negative, body) := takeSign cs
  match hexBody? body with
  | some hex =>
    let (whole, frac, rest) := mantissa (fun c => (hexValue? c).isSome) hex
    if whole.isEmpty && frac.isEmpty then none
    else (exponent? 'p' 'P' rest).map fun e =>
      Binary64.ofDyadic negative (digitsValue 16 (whole ++ frac)) (e - 4 * (frac.length : Int))
  | none =>
    let (whole, frac, rest) := mantissa Char.isDigit body
    if whole.isEmpty && frac.isEmpty then none
    else (exponent? 'e' 'E' rest).map fun e =>
      Binary64.ofDecimal negative (digitsValue 10 (whole ++ frac)) (e - (frac.length : Int))

/-- Drops blanks at both ends. -/
def trim (cs : List Char) : List Char :=
  ((cs.dropWhile isBlank).reverse.dropWhile isBlank).reverse

/-- The number whose numeral the byte string is. -/
def read? (bytes : Bytes) : Option Number :=
  let cs := trim (bytes.map fun b => Char.ofNat b.toNat)
  match readInteger? cs with
  | some i => some (.integer i)
  | none => (readDouble? cs).map .double

end Number

end EventScripts
