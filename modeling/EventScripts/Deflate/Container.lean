import EventScripts.Deflate.Inflate

/-!
# Compressed streams

The container around deflated data: two bytes that name the method, the data, and its
Adler-32 checksum. `decompress` reads every such stream and passes over bytes behind it;
`compress` stores its input in blocks, which is the plainest way to write one.
-/

set_option autoImplicit false

namespace EventScripts

namespace Deflate

/-- The two sums of the checksum: of the bytes, and of the sums so far. -/
def adlerSums (data : List UInt8) : Nat × Nat :=
  data.foldl (fun (a, b) x =>
    let a := (a + x.toNat) % 65521
    (a, (b + a) % 65521)) (1, 0)

/-- The Adler-32 checksum. -/
def adler32 (data : List UInt8) : Nat :=
  let (a, b) := adlerSums data
  b * 65536 + a

/-- A number of four bytes, the high byte first. -/
def bigEndian (n : Nat) : Bytes :=
  [n >>> 24, (n >>> 16) % 256, (n >>> 8) % 256, n % 256].map UInt8.ofNat

/-- Whether two bytes are a header that can be read: the method is deflate with a window of at
most 32 KiB, no dictionary is asked for, and the check bits are right. -/
def validHeader (method flags : Nat) : Bool :=
  (method * 256 + flags) % 31 == 0 && method % 16 == 8 && method / 16 ≤ 7
    && !flags.testBit 5

/-- The data of a compressed stream. -/
def decompress (stream : Bytes) : Except StreamError Bytes :=
  match stream with
  | method :: flags :: body =>
    if !validHeader method.toNat flags.toNat then .error .corrupt
    else do
      let (out, bits) ← inflate (bitsOf body)
      let (sum, _) ← takeBytes 4 (align bits) #[]
      if sum.toList == bigEndian (adler32 out.toList) then .ok out.toList else .error .corrupt
  | _ => .error .incomplete

/-- A number of two bytes, the low byte first. -/
def littleEndian (n : Nat) : Bytes :=
  [n % 256, n / 256].map UInt8.ofNat

/-- The most bytes a stored block takes. -/
def blockSize : Nat := 65535

/-- Data in stored blocks. The first argument bounds their number. -/
def stored : Nat → Bytes → Bytes
  | 0, _ => []
  | fuel + 1, data =>
    let piece := data.take blockSize
    let rest := data.drop blockSize
    let size := piece.length
    (if rest.isEmpty then 1 else 0) :: littleEndian size ++ littleEndian (65535 - size) ++ piece
      ++ (if rest.isEmpty then [] else stored fuel rest)

/-- A compressed stream of the data. -/
def compress (data : Bytes) : Bytes :=
  [0x78, 0x01] ++ stored (data.length / blockSize + 1) data ++ bigEndian (adler32 data)

end Deflate

end EventScripts
