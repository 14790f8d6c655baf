import EventScripts.Json.Basic

/-!
# Reading JSON

`Json.read?` reads a JSON text: one value, blanks around it, nothing else. A number
without point and exponent that fits 64 bits is a whole number. Any other number is a double,
computed as its first digits (as many as fit 64 bits) scaled once by a power of ten; that is the
nearest double for short numerals and may be one unit off for long ones. `-0` is the double.
-/

set_option autoImplicit false

namespace EventScripts

namespace Json

/-- Blanks between the tokens of a JSON text. -/
def isBlank (c : Char) : Bool :=
  c == ' ' || c == '\n' || c == '\t' || c == '\r'

/-- Drops blanks at the front. -/
def skipBlanks (cs : List Char) : List Char :=
  cs.dropWhile isBlank

/-- The text without the word `word` in front. -/
def expect? : List Char → List Char → Option (List Char)
  | [], cs => some cs
  | w :: ws, c :: cs => if w == c then expect? ws cs else none
  | _ :: _, [] => none

/-! ## Numbers -/

/-- Powers of ten as doubles, up to the largest finite one. -/
def powerOfTen (n : Nat) : Float :=
  Float.ofScientific 1 false n

/-- `significand · 10 ^ exponent` by one multiplication or division, after divisions by
`10 ^ 308` while the exponent is below that range; `none` when the result is too large. -/
def scaled (negative : Bool) (significand : Float) : Nat → Int → Option Float
  | 0, _ => some (if negative then -significand else significand)
  | fuel + 1, exponent =>
    if exponent.natAbs ≤ 308 then
      let x := if exponent ≥ 0 then significand * powerOfTen exponent.natAbs
        else significand / powerOfTen exponent.natAbs
      if x.isInf then none else some (if negative then -x else x)
    else if significand == 0 then some (if negative then -significand else significand)
    else if exponent ≥ 0 then none
    else scaled negative (significand / powerOfTen 308) fuel (exponent + 308)

/-- A double from its significand and exponent, or a meaningless value when it is too large. -/
def doubleOf (negative : Bool) (significand : Nat) (exponent : Int) : Json :=
  match scaled negative (Float.ofNat significand) (exponent.natAbs / 308 + 2) exponent with
  | some x => .double x
  | none => .meaningless

/-- Value of a decimal digit. -/
def digitValue (c : Char) : Nat :=
  c.toNat - '0'.toNat

/-- Appends digits to a significand while it stays below `2 ^ 64`: the significand, and how many
digits were appended. -/
def gather : Nat → List Char → Nat × Nat
  | m, [] => (m, 0)
  | m, d :: ds =>
    let next := m * 10 + digitValue d
    if next < UInt64.size then
      let (n, taken) := gather next ds
      (n, taken + 1)
    else (m, 0)

/-- The number written by a sign, the digits before the point, those behind it and an exponent,
each of the last two if present. -/
def numberOf (negative : Bool) (whole : List Char) (frac : Option (List Char))
    (exponent : Option (Bool × List Char)) : Json :=
  let (head, taken) := gather 0 whole
  let dropped := whole.length - taken
  match frac, exponent with
  | none, none =>
    if dropped > 0 then doubleOf negative head dropped
    else if !negative then .natural head
    else if head = 0 || head > Nat.pow 2 63 then .double (-Float.ofNat head)
    else .negative head
  | _, _ =>
    let (m, behind) : Nat × Nat := match frac with
      | some ds => gather head ds
      | none => (head, 0)
    let base : Int := (dropped : Int) - behind
    match exponent with
    | none => doubleOf negative m base
    | some (down, ds) =>
      let e := ds.foldl (fun n c => n * 10 + digitValue c) 0
      if e ≥ Nat.pow 2 31 then
        if m ≠ 0 && !down then .meaningless
        else .double (if negative then -0.0 else 0.0)
      else doubleOf negative m (if down then base - e else base + e)

/-- Splits digits off the front; there has to be one. -/
def digits? (cs : List Char) : Option (List Char × List Char) :=
  let ds := cs.takeWhile Char.isDigit
  if ds.isEmpty then none else some (ds, cs.dropWhile Char.isDigit)

/-- Reads the digits in front of a point; `0` stands alone. -/
def wholePart? (cs : List Char) : Option (List Char × List Char) :=
  (digits? cs).bind fun (ds, rest) =>
    if ds.length > 1 && ds.head? == some '0' then none else some (ds, rest)

/-- Reads a point and the digits behind it, if a point comes next. -/
def fracPart? : List Char → Option (Option (List Char) × List Char)
  | '.' :: cs => (digits? cs).map fun (ds, rest) => (some ds, rest)
  | cs => some (none, cs)

/-- Reads an exponent, if one comes next: whether it is negative, and its digits. -/
def exponentPart? : List Char → Option (Option (Bool × List Char) × List Char)
  | c :: cs =>
    if c == 'e' || c == 'E' then
      let (down, ds) := match cs with
        | '-' :: rest => (true, rest)
        | '+' :: rest => (false, rest)
        | rest => (false, rest)
      (digits? ds).map fun (ds, rest) => (some (down, ds), rest)
    else some (none, c :: cs)
  | [] => some (none, [])

/-- Reads a number without its sign. -/
def number? (negative : Bool) (cs : List Char) : Option (Json × List Char) := do
  let (whole, cs) ← wholePart? cs
  let (frac, cs) ← fracPart? cs
  let (exponent, cs) ← exponentPart? cs
  some (numberOf negative whole frac exponent, cs)

/-! ## Texts -/

/-- Value of a hexadecimal digit. -/
def hexValue? (c : Char) : Option Nat :=
  if c.isDigit then some (c.toNat - '0'.toNat)
  else if 'a' ≤ c && c ≤ 'f' then some (c.toNat - 'a'.toNat + 10)
  else if 'A' ≤ c && c ≤ 'F' then some (c.toNat - 'A'.toNat + 10)
  else none

/-- Reads the four digits of a `\u` escape. -/
def unit? : List Char → Option (Nat × List Char)
  | a :: b :: c :: d :: rest => do
    let a ← hexValue? a
    let b ← hexValue? b
    let c ← hexValue? c
    let d ← hexValue? d
    some (((a * 16 + b) * 16 + c) * 16 + d, rest)
  | _ => none

/-- The character of an escape letter other than `u`. -/
def escaped? : Char → Option Char
  | '"' => some '"'
  | '\\' => some '\\'
  | '/' => some '/'
  | 'b' => some '\x08'
  | 'f' => some '\x0c'
  | 'n' => some '\n'
  | 'r' => some '\r'
  | 't' => some '\t'
  | _ => none

/-- The first half of a surrogate pair. -/
def isHigh (n : Nat) : Bool := 0xD800 ≤ n && n ≤ 0xDBFF

/-- The second half of a surrogate pair. -/
def isLow (n : Nat) : Bool := 0xDC00 ≤ n && n ≤ 0xDFFF

/-- A character or escape of a text: `none` inside for half a surrogate pair. -/
def item? : List Char → Option (Option Char × List Char)
  | '\\' :: 'u' :: cs => do
    let (n, rest) ← unit? cs
    if isLow n then some (none, rest)
    else if isHigh n then
      match rest with
      | '\\' :: 'u' :: more => do
        let (m, rest') ← unit? more
        if isLow m then
          some (some (Char.ofNat (0x10000 + (n - 0xD800) * 0x400 + (m - 0xDC00))), rest')
        else some (none, rest)
      | _ => some (none, rest)
    else some (some (Char.ofNat n), rest)
  | '\\' :: c :: cs => (escaped? c).map fun c => (some c, cs)
  | '\\' :: [] => none
  | c :: cs => if c.toNat < 0x20 then none else some (some c, cs)
  | [] => none

/-- Reads a text up to its closing quote: `none` inside when some part denotes no character. -/
def text? : Nat → List Char → Option (Option (List Char) × List Char)
  | 0, _ => none
  | _ + 1, '"' :: cs => some (some [], cs)
  | fuel + 1, cs => do
    let (c, rest) ← item? cs
    let (tail, rest) ← text? fuel rest
    some (c.bind fun c => tail.map (c :: ·), rest)

/-! ## Values -/

mutual

/-- Reads a value behind blanks. The first argument bounds the number of steps. -/
def value? : Nat → List Char → Option (Json × List Char)
  | 0, _ => none
  | fuel + 1, cs =>
    match skipBlanks cs with
    | '"' :: rest => (text? (rest.length + 1) rest).map fun (t, rest) =>
        (match t with
          | some t => .string (String.ofList t)
          | none => .meaningless, rest)
    | '[' :: rest =>
      match skipBlanks rest with
      | ']' :: rest => some (.array [], rest)
      | rest => (items? fuel rest).map fun (js, rest) => (.array js, rest)
    | '\x7b' :: rest =>
      match skipBlanks rest with
      | '\x7d' :: rest => some (.object [], rest)
      | rest => (members? fuel rest).map fun (ms, rest) =>
          (match ms with
            | some ms => .object ms
            | none => .meaningless, rest)
    | '-' :: rest => number? true rest
    | 'n' :: rest => (expect? "ull".toList rest).map fun rest => (.null, rest)
    | 't' :: rest => (expect? "rue".toList rest).map fun rest => (.bool true, rest)
    | 'f' :: rest => (expect? "alse".toList rest).map fun rest => (.bool false, rest)
    | rest => number? false rest

/-- Reads the items of an array up to its closing bracket; there is at least one. -/
def items? : Nat → List Char → Option (List Json × List Char)
  | 0, _ => none
  | fuel + 1, cs => do
    let (j, rest) ← value? fuel cs
    match skipBlanks rest with
    | ',' :: rest => do
      let (js, rest) ← items? fuel rest
      some (j :: js, rest)
    | ']' :: rest => some ([j], rest)
    | _ => none

/-- Reads the members of an object up to its closing brace; there is at least one. Inside,
`none` stands for members of which one has a name that denotes no text. -/
def members? : Nat → List Char → Option (Option (List (String × Json)) × List Char)
  | 0, _ => none
  | fuel + 1, cs => do
    match skipBlanks cs with
    | '"' :: rest => do
      let (name, rest) ← text? (rest.length + 1) rest
      match skipBlanks rest with
      | ':' :: rest => do
        let (j, rest) ← value? fuel rest
        match skipBlanks rest with
        | ',' :: rest => do
          let (ms, rest) ← members? fuel rest
          some (name.bind fun n => ms.map ((String.ofList n, j) :: ·), rest)
        | '\x7d' :: rest => some (name.map fun n => [(String.ofList n, j)], rest)
        | _ => none
      | _ => none
    | _ => none

end

/-- The value of a JSON text. -/
def read? (text : String) : Option Json := do
  let cs := text.toList
  let (j, rest) ← value? (cs.length + 1) cs
  if (skipBlanks rest).isEmpty then some j else none

end Json

end EventScripts
