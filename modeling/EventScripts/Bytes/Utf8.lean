import EventScripts.Bytes

/-!
# UTF-8

A byte-at-a-time reader of UTF-8. Between characters it holds nothing; inside one it holds
`Partial`: the range the next byte has to lie in, how many bytes follow that one, and the bits
collected so far. The ranges rule out overlong forms, surrogates and code points above U+10FFFF,
so a byte is refused at the first place where no character can continue.

`Bytes.lossy` reads any byte string: each longest run of bytes that begins a character and
breaks off is shown as one U+FFFD. `Bytes.text?` reads only well-formed byte strings.
-/

set_option autoImplicit false

namespace EventScripts

namespace Utf8

/-- A character of which some bytes have been read. -/
structure Partial where
  /-- Least value the next byte may have. -/
  low : UInt8
  /-- Greatest value the next byte may have. -/
  high : UInt8
  /-- Bytes still to come after the next one. -/
  after : Nat
  /-- Bits collected so far. -/
  bits : Nat
  deriving DecidableEq

/-- What the first byte of a character says. -/
inductive Lead where
  /-- It is a character of its own. -/
  | single (c : Char)
  /-- More bytes have to follow. -/
  | more (p : Partial)
  /-- No character begins with it. -/
  | stray

/-- The reading of a byte between characters. -/
def lead (b : UInt8) : Lead :=
  let n := b.toNat
  if n < 0x80 then .single (Char.ofNat n)
  else if n < 0xC2 then .stray
  else if n < 0xE0 then .more ⟨0x80, 0xBF, 0, n - 0xC0⟩
  else if n = 0xE0 then .more ⟨0xA0, 0xBF, 1, 0⟩
  else if n = 0xED then .more ⟨0x80, 0x9F, 1, n - 0xE0⟩
  else if n < 0xF0 then .more ⟨0x80, 0xBF, 1, n - 0xE0⟩
  else if n = 0xF0 then .more ⟨0x90, 0xBF, 2, 0⟩
  else if n < 0xF4 then .more ⟨0x80, 0xBF, 2, n - 0xF0⟩
  else if n = 0xF4 then .more ⟨0x80, 0x8F, 2, n - 0xF0⟩
  else .stray

/-- Whether the character can go on with this byte. -/
def Partial.accepts (p : Partial) (b : UInt8) : Bool :=
  p.low ≤ b && b ≤ p.high

/-- The bits after one more byte. -/
def Partial.push (p : Partial) (b : UInt8) : Nat :=
  p.bits * 64 + (b.toNat - 0x80)

/-- The character in progress after one more byte, when it is not complete yet. -/
def Partial.next (p : Partial) (b : UInt8) (after : Nat) : Partial :=
  ⟨0x80, 0xBF, after, p.push b⟩

/-- The mark that stands for bytes which are no character. -/
def replacement : Char := '\uFFFD'

/-- The characters of a byte string that is read from inside the character `p`, or from between
characters; unreadable parts become `replacement`. -/
def lossyFrom : Option Partial → Bytes → List Char
  | none, [] => []
  | some _, [] => [replacement]
  | none, b :: bs =>
    match lead b with
    | .single c => c :: lossyFrom none bs
    | .more p => lossyFrom (some p) bs
    | .stray => replacement :: lossyFrom none bs
  | some p, b :: bs =>
    if p.accepts b then
      match p.after with
      | 0 => Char.ofNat (p.push b) :: lossyFrom none bs
      | k + 1 => lossyFrom (some (p.next b k)) bs
    else
      replacement ::
        match lead b with
        | .single c => c :: lossyFrom none bs
        | .more q => lossyFrom (some q) bs
        | .stray => replacement :: lossyFrom none bs

/-- The characters of a well-formed byte string, read as in `lossyFrom`; `none` at the first
byte that cannot stand where it does. -/
def readFrom : Option Partial → Bytes → Option (List Char)
  | none, [] => some []
  | some _, [] => none
  | none, b :: bs =>
    match lead b with
    | .single c => (readFrom none bs).map (c :: ·)
    | .more p => readFrom (some p) bs
    | .stray => none
  | some p, b :: bs =>
    if p.accepts b then
      match p.after with
      | 0 => (readFrom none bs).map (Char.ofNat (p.push b) :: ·)
      | k + 1 => readFrom (some (p.next b k)) bs
    else none

end Utf8

namespace Bytes

/-- The byte string as a text, each unreadable part shown as U+FFFD. -/
def lossy (bytes : Bytes) : String :=
  String.ofList (Utf8.lossyFrom none bytes)

/-- The byte string as a text, if it is well-formed UTF-8. -/
def text? (bytes : Bytes) : Option String :=
  (Utf8.readFrom none bytes).map String.ofList

end Bytes

end EventScripts
