import EventScripts.Bytes
import EventScripts.Deflate.Huffman

/-!
# Reading deflated data

The deflate format: blocks that are stored, or coded with fixed or transmitted Huffman codes.
A copy that reaches back in front of the data reads zeros.
-/

set_option autoImplicit false

namespace EventScripts

namespace Deflate

/-- The bits of bytes, the low bit of each byte first. -/
def bitsOf (bytes : Bytes) : List Bool :=
  bytes.flatMap fun b => (List.range 8).map fun i => b.toNat.testBit i

/-- The number that bits write, the low bit first. -/
def valueOf : List Bool → Nat
  | [] => 0
  | b :: bs => b.toNat + 2 * valueOf bs

/-- Takes a number of `n` bits off the front. -/
def take? (n : Nat) (bits : List Bool) : Except StreamError (Nat × List Bool) :=
  let front := bits.take n
  if front.length < n then .error .incomplete else .ok (valueOf front, bits.drop n)

/-- Takes `n` bytes off the front and puts them behind what has been read. -/
def takeBytes : Nat → List Bool → Array UInt8 → Except StreamError (Array UInt8 × List Bool)
  | 0, bits, out => .ok (out, bits)
  | n + 1, bits, out => do
    let (b, bits) ← take? 8 bits
    takeBytes n bits (out.push (UInt8.ofNat b))

/-- Appends `n` bytes that stand `distance` back. -/
def copyBack (distance : Nat) : Nat → Array UInt8 → Array UInt8
  | 0, out => out
  | n + 1, out =>
    let b := if distance ≤ out.size then out[out.size - distance]?.getD 0 else 0
    copyBack distance n (out.push b)

/-- Least length and extra bits of the length symbols from 257 on. -/
def lengthCodes : Array (Nat × Nat) :=
  #[(3, 0), (4, 0), (5, 0), (6, 0), (7, 0), (8, 0), (9, 0), (10, 0), (11, 1), (13, 1), (15, 1),
    (17, 1), (19, 2), (23, 2), (27, 2), (31, 2), (35, 3), (43, 3), (51, 3), (59, 3), (67, 4),
    (83, 4), (99, 4), (115, 4), (131, 5), (163, 5), (195, 5), (227, 5), (258, 0)]

/-- Least distance and extra bits of the distance symbols. -/
def distanceCodes : Array (Nat × Nat) :=
  #[(1, 0), (2, 0), (3, 0), (4, 0), (5, 1), (7, 1), (9, 2), (13, 2), (17, 3), (25, 3), (33, 4),
    (49, 4), (65, 5), (97, 5), (129, 6), (193, 6), (257, 7), (385, 7), (513, 8), (769, 8),
    (1025, 9), (1537, 9), (2049, 10), (3073, 10), (4097, 11), (6145, 11), (8193, 12), (12289, 12),
    (16385, 13), (24577, 13)]

/-- Reads the number that a symbol with extra bits stands for. -/
def extended (codes : Array (Nat × Nat)) (symbol : Nat) (bits : List Bool) :
    Except StreamError (Nat × List Bool) :=
  match codes[symbol]? with
  | none => .error .corrupt
  | some (base, extra) => do
    let (n, bits) ← take? extra bits
    .ok (base + n, bits)

/-- Reads coded data up to the end of its block. The first argument bounds the symbols. -/
def coded (literals distances : Huffman) :
    Nat → List Bool → Array UInt8 → Except StreamError (Array UInt8 × List Bool)
  | 0, _, _ => .error .incomplete
  | fuel + 1, bits, out => do
    let (symbol, bits) ← literals.read bits
    if symbol < 256 then coded literals distances fuel bits (out.push (UInt8.ofNat symbol))
    else if symbol = 256 then .ok (out, bits)
    else
      let (length, bits) ← extended lengthCodes (symbol - 257) bits
      let (symbol, bits) ← distances.read bits
      let (distance, bits) ← extended distanceCodes symbol bits
      coded literals distances fuel bits (copyBack distance length out)

/-- Lengths of the fixed code for literals. -/
def fixedLiterals : List Nat :=
  List.replicate 144 8 ++ List.replicate 112 9 ++ List.replicate 24 7 ++ List.replicate 8 8

/-- Lengths of the fixed code for distances. -/
def fixedDistances : List Nat := List.replicate 32 5

/-- The order in which the lengths of the code for lengths are sent. -/
def lengthOrder : List Nat :=
  [16, 17, 18, 0, 8, 7, 9, 6, 10, 5, 11, 4, 12, 3, 13, 2, 14, 1, 15]

/-- Reads `count` numbers of three bits. -/
def triples : Nat → List Bool → Except StreamError (List Nat × List Bool)
  | 0, bits => .ok ([], bits)
  | count + 1, bits => do
    let (n, bits) ← take? 3 bits
    let (ns, bits) ← triples count bits
    .ok (n :: ns, bits)

/-- Reads code lengths until there are `count`; those so far come in last first. -/
def codeLengths (code : Huffman) (count : Nat) :
    Nat → List Bool → List Nat → Except StreamError (List Nat × List Bool)
  | 0, _, _ => .error .corrupt
  | fuel + 1, bits, acc =>
    if acc.length ≥ count then
      if acc.length = count then .ok (acc.reverse, bits) else .error .corrupt
    else do
      let (symbol, bits) ← code.read bits
      if symbol < 16 then codeLengths code count fuel bits (symbol :: acc)
      else if symbol = 16 then
        match acc with
        | [] => .error .corrupt
        | last :: _ => do
          let (n, bits) ← take? 2 bits
          codeLengths code count fuel bits (List.replicate (n + 3) last ++ acc)
      else if symbol = 17 then do
        let (n, bits) ← take? 3 bits
        codeLengths code count fuel bits (List.replicate (n + 3) 0 ++ acc)
      else do
        let (n, bits) ← take? 7 bits
        codeLengths code count fuel bits (List.replicate (n + 11) 0 ++ acc)

/-- The code with given lengths, or an error. -/
def codeOf (full : Bool) (lengths : List Nat) : Except StreamError Huffman :=
  match Huffman.ofLengths? full lengths with
  | some h => .ok h
  | none => .error .corrupt

/-- Reads the codes of a block. -/
def transmittedCodes (bits : List Bool) : Except StreamError (Huffman × Huffman × List Bool) := do
  let (hlit, bits) ← take? 5 bits
  let (hdist, bits) ← take? 5 bits
  let (hclen, bits) ← take? 4 bits
  let literalCount := hlit + 257
  let distanceCount := hdist + 1
  if literalCount > 286 || distanceCount > 30 then .error .corrupt
  else
    let (sent, bits) ← triples (hclen + 4) bits
    let pairs := lengthOrder.zip sent
    let lengths := (List.range 19).map fun i => ((pairs.find? (·.1 == i)).map (·.2)).getD 0
    let code ← codeOf true lengths
    let total := literalCount + distanceCount
    let (all, bits) ← codeLengths code total (total + 1) bits []
    let literals ← codeOf false (all.take literalCount)
    let distances ← codeOf false (all.drop literalCount)
    .ok (literals, distances, bits)

/-- Drops the bits up to the next whole byte. -/
def align (bits : List Bool) : List Bool :=
  bits.drop (bits.length % 8)

/-- Reads a block behind its header. -/
def block (kind : Nat) (bits : List Bool) (out : Array UInt8) :
    Except StreamError (Array UInt8 × List Bool) :=
  match kind with
  | 0 => do
    let (size, bits) ← take? 16 (align bits)
    let (check, bits) ← take? 16 bits
    if size + check ≠ 0xFFFF then .error .corrupt else takeBytes size bits out
  | 1 => do
    let literals ← codeOf false fixedLiterals
    let distances ← codeOf false fixedDistances
    coded literals distances (bits.length + 1) bits out
  | 2 => do
    let (literals, distances, bits) ← transmittedCodes bits
    coded literals distances (bits.length + 1) bits out
  | _ => .error .corrupt

/-- Reads blocks up to the last one. The first argument bounds their number. -/
def blocks : Nat → List Bool → Array UInt8 → Except StreamError (Array UInt8 × List Bool)
  | 0, _, _ => .error .incomplete
  | fuel + 1, bits, out => do
    let (last, bits) ← take? 1 bits
    let (kind, bits) ← take? 2 bits
    let (out, bits) ← block kind bits out
    if last = 1 then .ok (out, bits) else blocks fuel bits out

/-- Reads deflated data: the data, and the bits behind it. -/
def inflate (bits : List Bool) : Except StreamError (Array UInt8 × List Bool) :=
  blocks (bits.length + 1) bits #[]

end Deflate

end EventScripts
