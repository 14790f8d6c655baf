/-!
# Canonical Huffman codes

A canonical code is given by the length of each symbol's code word; words of one length are
consecutive and in the order of the symbols. Bits come as a list, the first bit first.
-/

set_option autoImplicit false

namespace EventScripts

namespace Deflate

/-- Why a compressed stream cannot be read. -/
inductive StreamError where
  /-- The input ended too early. -/
  | incomplete
  /-- The input is no stream of the format. -/
  | corrupt
  deriving DecidableEq

/-- A canonical code: how many words there are of each length from one up, and the symbols in the
order of their words. -/
structure Huffman where
  counts : List Nat
  symbols : Array Nat

/-- The longest code word. -/
def maxLength : Nat := 15

/-- The symbols whose words have a length. -/
def symbolsOf (lengths : List Nat) (length : Nat) : List Nat :=
  (lengths.zipIdx.filter (·.1 == length)).map (·.2)

/-- The share of all words of `maxLength` bits that the code words take. -/
def used (counts : List Nat) : Nat :=
  (counts.foldl (fun total n => 2 * total + n) 0)

/-- The code with the given lengths, zero for symbols without a word. All words have to be used,
unless at most one symbol has a word and `full` does not insist. -/
def Huffman.ofLengths? (full : Bool) (lengths : List Nat) : Option Huffman :=
  let groups := (List.range maxLength).map fun i => symbolsOf lengths (i + 1)
  let counts := groups.map List.length
  let number := counts.foldl (· + ·) 0
  if used counts != Nat.pow 2 maxLength && (number > 1 || full) then none
  else some ⟨counts, groups.flatten.toArray⟩

/-- Reads one symbol. `code` holds the bits so far, `first` the first word of their length and
`index` the symbols with shorter words. -/
def Huffman.walk (symbols : Array Nat) (code first index : Nat) :
    List Nat → List Bool → Except StreamError (Nat × List Bool)
  | [], _ => .error .corrupt
  | _ :: _, [] => .error .incomplete
  | count :: counts, bit :: bits =>
    let code := code + bit.toNat
    if code < first + count then
      match symbols[index + (code - first)]? with
      | some symbol => .ok (symbol, bits)
      | none => .error .corrupt
    else walk symbols (2 * code) (2 * (first + count)) (index + count) counts bits

/-- Reads one symbol. -/
def Huffman.read (h : Huffman) (bits : List Bool) : Except StreamError (Nat × List Bool) :=
  Huffman.walk h.symbols 0 0 0 h.counts bits

end Deflate

end EventScripts
