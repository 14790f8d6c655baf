/-!
# Byte strings

Scripts compute with byte strings, the host with texts. `Bytes` is the script's side of that
border: a list of bytes, compared byte by byte. `String.bytes` writes a text as its UTF-8 bytes;
the ways back are in `EventScripts.Bytes.Utf8`.
-/

set_option autoImplicit false

namespace EventScripts

/-- A byte string, in the order it is written. -/
abbrev Bytes := List UInt8

/-- The UTF-8 bytes of a text. -/
def textBytes (text : String) : Bytes :=
  text.toList.flatMap String.utf8EncodeChar

/-- Texts with the same bytes are the same. -/
theorem textBytes_inj {a b : String} (h : textBytes a = textBytes b) : a = b := by
  have hbytes : a.toList.utf8Encode = b.toList.utf8Encode := congrArg List.toByteArray h
  rwa [String.utf8Encode_toList, String.utf8Encode_toList, String.toByteArray_inj] at hbytes

/-- The bytes of a text are those of its parts. -/
theorem textBytes_append (a b : String) : textBytes (a ++ b) = textBytes a ++ textBytes b := by
  unfold textBytes
  rw [String.toList_append, List.flatMap_append]

namespace Bytes

/-- Byte-wise lexicographic order, a proper prefix first. -/
def le : Bytes → Bytes → Bool
  | [], _ => true
  | _ :: _, [] => false
  | a :: as, b :: bs => a < b || (a == b && le as bs)

/-- The bytes in front of the first NUL, all of them when there is none. -/
def untilNul (bytes : Bytes) : Bytes :=
  bytes.takeWhile (· ≠ 0)

/-- The position of the first NUL byte. -/
def nul? (bytes : Bytes) : Option Nat :=
  bytes.findIdx? (· == 0)

/-- The parts of a byte string between separators. -/
def partsAt (separator : UInt8) : Bytes → List Bytes
  | [] => [[]]
  | b :: bs =>
    if b == separator then [] :: partsAt separator bs
    else match partsAt separator bs with
      | part :: parts => (b :: part) :: parts
      | [] => [[b]]

end Bytes

end EventScripts
