import EventScripts.Bytes.Utf8
import EventScripts.Json.Basic
import EventScripts.Script.Snapshot

/-!
# JSON forms of script values

Values are written so that nothing is lost: an integer as a number, or as its decimal text under
`int` where JSON numbers are not exact; a double under `num`, as a number if it is whole and exact
there, else by its bits; a byte string as a text, or in hexadecimal under `hex` if it is not
UTF-8; a table as its rows under `table`.
-/

set_option autoImplicit false

namespace EventScripts

open Script

/-- Whole numbers up to this one are exact in JSON. -/
def exactLimit : Int := Nat.pow 2 53

/-- Hexadecimal digits of a number, at least `width` of them. -/
def hexText (width n : Nat) : String :=
  String.ofList ((Nat.toDigits 16 n).leftpad width '0')

/-- The number that hexadecimal digits write. -/
def hexNumber (cs : List Char) : Nat :=
  cs.foldl (fun n c => n * 16 + (Number.hexValue? c).getD 0) 0

/-- The bytes that pairs of hexadecimal digits write. -/
def hexBytes : List Char → Bytes
  | a :: b :: rest => UInt8.ofNat (hexNumber [a, b]) :: hexBytes rest
  | _ => []

namespace Json

/-- The member of a name, null if there is none. -/
def member (j : Json) (name : String) : Json :=
  match j with
  | .object members => ((members.find? (·.1 == name)).map (·.2)).getD .null
  | _ => .null

/-- Whether there is a member of a name. -/
def has (j : Json) (name : String) : Bool :=
  match j with
  | .object members => members.any (·.1 == name)
  | _ => false

/-- An integer in JSON. -/
def ofInt (i : Int) : Json :=
  if 0 ≤ i then .natural i.toNat else .negative i.natAbs

/-- A double in JSON: a whole number, or its bits. -/
def ofDouble (x : Float) : Json :=
  if x.isNaN then .string "nan"
  else
    let bits := Json.string ("x" ++ hexText 16 x.toBits.toNat)
    match Binary64.whole? x with
    | some i =>
      if -exactLimit ≤ i && i ≤ exactLimit && !(i == 0 && Binary64.isNegative x) then ofInt i
      else bits
    | none => bits

/-- The double that JSON denotes. -/
def toDouble? : Json → Option Float
  | .natural n => some (Float.ofNat n)
  | .negative n => some (-Float.ofNat n)
  | .string s => match s.toList with
    | 'x' :: digits => some (Float.ofBits (UInt64.ofNat (hexNumber digits)))
    | _ => if s == "nan" then some (0.0 / 0.0) else none
  | _ => none

/-- A number of the script language in JSON. -/
def ofNumber : Number → Json
  | .integer i =>
    if -exactLimit ≤ i.toInt && i.toInt ≤ exactLimit then ofInt i.toInt
    else .object [("int", .string (toString i.toInt))]
  | .double x => .object [("num", ofDouble x)]

/-- Bytes in JSON. -/
def ofBytes (bytes : Bytes) : Json :=
  match Bytes.text? bytes with
  | some s => .string s
  | none => .object [("hex", .string (String.join (bytes.map fun b => hexText 2 b.toNat)))]

/-- The bytes that JSON denotes. -/
def toBytes? (j : Json) : Option Bytes :=
  match j with
  | .string s => some (textBytes s)
  | j => match j.member "hex" with
    | .string digits => some (hexBytes digits.toList)
    | _ => none

end Json

namespace Script

mutual

/-- What can be seen of a value, in JSON. -/
def Snapshot.toJson : Snapshot → Json
  | .nil => .null
  | .boolean b => .bool b
  | .number n => .ofNumber n
  | .string s => .ofBytes s
  | .table rows => .object [("table", .array (rowsToJson rows))]
  | .function => .object [("fn", .bool true)]
  | .other kind => .object [("other", .string kind)]

/-- Rows of a table in JSON. -/
def rowsToJson : List (Snapshot × Snapshot) → List Json
  | [] => []
  | (k, v) :: rows => .array [k.toJson, v.toJson] :: rowsToJson rows

end

end Script

end EventScripts
