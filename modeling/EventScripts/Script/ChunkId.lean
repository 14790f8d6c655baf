import EventScripts.Bytes
import EventScripts.Number.DoubleText

/-!
# Names of chunks in positions

A chunk is loaded under a label. Positions show the label in at most 59 bytes: a label that
begins with `=` is cut at its end, one that begins with `@` at its front, and any other label is
quoted as `[string "…"]`, cut to its first line and 45 bytes. Cuts are between bytes, so they can
split a character.
-/

set_option autoImplicit false

namespace EventScripts

namespace Script

/-- The most bytes a shown label takes. -/
def idSize : Nat := 59

/-- The most bytes of a quoted label that are shown. -/
def quotedSize : Nat := 45

/-- A label cut to its first line. -/
def firstLine (label : Bytes) : Bytes :=
  label.takeWhile (· ≠ 10)

/-- What positions show for a label. -/
def chunkId (label : Bytes) : Bytes :=
  match label with
  | 0x3D :: rest => rest.take idSize
  | 0x40 :: rest =>
    if rest.length ≤ idSize then rest
    else textBytes "..." ++ rest.drop (rest.length - (idSize - 3))
  | _ =>
    let line := firstLine label
    let shown :=
      if line.length = label.length && label.length < quotedSize then label
      else line.take quotedSize ++ textBytes "..."
    textBytes "[string \"" ++ shown ++ textBytes "\"]"

/-- The position of a line, as it stands in front of messages. -/
def positionText (chunk : Bytes) (line : Nat) : Bytes :=
  chunk ++ textBytes ":" ++ (Binary64.digits line).map (fun c => c.val.toUInt8) ++ textBytes ": "

end Script

end EventScripts
