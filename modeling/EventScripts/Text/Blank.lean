/-!
# Blank characters

The characters with the Unicode property `White_Space`, and trimming by it.
-/

set_option autoImplicit false

namespace EventScripts

/-- Whether a character is white space. -/
def isWhiteSpace (c : Char) : Bool :=
  let n := c.toNat
  (9 ≤ n && n ≤ 13) || n == 0x20 || n == 0x85 || n == 0xA0 || n == 0x1680
    || (0x2000 ≤ n && n ≤ 0x200A) || n == 0x2028 || n == 0x2029 || n == 0x202F || n == 0x205F
    || n == 0x3000

/-- Drops white space at the front. -/
def trimFront (cs : List Char) : List Char :=
  cs.dropWhile isWhiteSpace

/-- Drops white space at the end. -/
def trimBack (cs : List Char) : List Char :=
  (cs.reverse.dropWhile isWhiteSpace).reverse

/-- A text without its first characters `word`, as often as it begins with them; `fuel` bounds
the rounds. -/
def dropWords (word : List Char) : Nat → List Char → List Char
  | 0, cs => cs
  | fuel + 1, cs =>
    if !word.isEmpty && word.isPrefixOf cs then dropWords word fuel (cs.drop word.length) else cs

/-- Splits a text at the first place where `part` begins. -/
def splitAtPart? (part : List Char) : List Char → Option (List Char × List Char)
  | [] => if part.isEmpty then some ([], []) else none
  | c :: cs =>
    if part.isPrefixOf (c :: cs) then some ([], c :: cs)
    else (splitAtPart? part cs).map fun (a, b) => (c :: a, b)

end EventScripts
