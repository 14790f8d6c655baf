import EventScripts.Pattern.CaseTable
import EventScripts.Pattern.CategoryTable
import EventScripts.Pattern.PropertyTable

/-!
# Sets of characters

A set is a list of ranges of code points, ascending and apart from each other. The operations
keep that form. `foldCase` closes a set under simple case folding. The named sets are those of
the Unicode standard: decimal digits, white space, and word characters (letters, marks, decimal
digits, connectors and joiners).
-/

set_option autoImplicit false

namespace EventScripts

namespace Pattern

/-- A set of characters, as ranges with both ends included. -/
structure CharSet where
  ranges : List (Nat × Nat)

namespace CharSet

/-- No character. -/
def empty : CharSet := ⟨[]⟩

/-- Whether a character is in the set. -/
def contains (s : CharSet) (c : Char) : Bool :=
  s.ranges.any fun (a, b) => a ≤ c.toNat && c.toNat ≤ b

/-- Joins ranges that overlap or touch, given in the order of their first members. -/
def merge : List (Nat × Nat) → List (Nat × Nat)
  | [] => []
  | (a, b) :: rest =>
    match merge rest with
    | (c, d) :: more => if c ≤ b + 1 then (a, max b d) :: more else (a, b) :: (c, d) :: more
    | [] => [(a, b)]

/-- The set of the members of all ranges. -/
def ofRanges (ranges : List (Nat × Nat)) : CharSet :=
  let sorted := (ranges.mergeSort fun p q => p.1 ≤ q.1)
  -- A range may swallow several later ones, so ends are carried forward before joining.
  let carried := (sorted.foldl (fun (acc : List (Nat × Nat) × Nat) r =>
    let reach := max acc.2 r.2
    ((r.1, reach) :: acc.1, reach)) ([], 0)).1.reverse
  ⟨merge carried⟩

/-- One character. -/
def single (c : Char) : CharSet := ⟨[(c.toNat, c.toNat)]⟩

/-- The characters from one to another. -/
def range (a b : Char) : CharSet := ⟨[(a.toNat, b.toNat)]⟩

/-- The characters in one of two sets. -/
def union (s t : CharSet) : CharSet := ofRanges (s.ranges ++ t.ranges)

/-- The gaps from `next` on, up to the last character. -/
def gaps (next : Nat) : List (Nat × Nat) → List (Nat × Nat)
  | [] => if next ≤ 0x10FFFF then [(next, 0x10FFFF)] else []
  | (a, b) :: rest => if next < a then (next, a - 1) :: gaps (b + 1) rest else gaps (b + 1) rest

/-- The characters that are not in the set. -/
def complement (s : CharSet) : CharSet := ⟨gaps 0 s.ranges⟩

/-- The characters in both of two sets. -/
def inter (s t : CharSet) : CharSet := (s.complement.union t.complement).complement

/-- The characters in the first set and not in the second. -/
def diff (s t : CharSet) : CharSet := s.inter t.complement

/-- The characters in exactly one of two sets. -/
def symmDiff (s t : CharSet) : CharSet := (s.union t).diff (s.inter t)

/-! ## Tables -/

/-- The number written in hexadecimal. -/
def hexNumber (cs : List Char) : Nat :=
  cs.foldl (fun n c =>
    n * 16 + (if c.isDigit then c.toNat - '0'.toNat else c.toNat - 'A'.toNat + 10)) 0

/-- The words of a table, which are apart by blanks and line breaks. -/
def tableWords (table : String) : List String :=
  ((table.splitOn "\n").flatMap (·.splitOn " ")).filter (· ≠ "")

/-- The ranges listed in a table. -/
def ofTable (table : String) : CharSet :=
  ⟨(tableWords table).filterMap fun word =>
    match (word.splitOn "-").map fun w => hexNumber w.toList with
    | [a] => if word.isEmpty then none else some (a, a)
    | [a, b] => some (a, b)
    | _ => none⟩

/-- The case orbits of the table. -/
def caseOrbits : List (List Nat) :=
  (tableWords caseOrbitTable).map fun word => (word.splitOn "-").map fun w => hexNumber w.toList

/-- The set with every character that is equal to a member but for case. -/
def foldCase (s : CharSet) : CharSet :=
  let more := caseOrbits.filter fun orbit =>
    orbit.any fun n => s.ranges.any fun (a, b) => a ≤ n && n ≤ b
  ofRanges (s.ranges ++ more.flatten.map fun n => (n, n))

/-- The set of a general category, by its short name. -/
def category (name : String) : CharSet :=
  match categoryTable.find? (·.1 == name) with
  | some (_, _, table) => ofTable table
  | none => empty

/-- The union of the categories whose short names begin with a letter. -/
def categoryGroup (letter : String) : CharSet :=
  ofRanges ((categoryTable.filter fun row => row.1.startsWith letter).flatMap fun row =>
    (ofTable row.2.2).ranges)

/-- A property that holds of a character or not, by its short name. -/
def property (name : String) : CharSet :=
  match propertyTable.find? (·.1 == name) with
  | some (_, _, table) => ofTable table
  | none => empty

/-- Decimal digits. -/
def digit : CharSet := category "Nd"

/-- White space. -/
def space : CharSet := property "space"

/-- Letters, and what counts as one. -/
def letter : CharSet := property "Alpha"

/-- Characters of words. -/
def word : CharSet :=
  ofRanges (letter.ranges ++ (categoryGroup "M").ranges ++ digit.ranges ++ (category "Pc").ranges
    ++ [(0x200C, 0x200D)])

/-- Letters and numbers. -/
def alphanumeric : CharSet :=
  letter.union (categoryGroup "N")

/-- The decimal digits in ASCII. -/
def asciiDigit : CharSet := range '0' '9'

/-- White space in ASCII, the vertical tab included. -/
def asciiSpace : CharSet := ⟨[(9, 13), (32, 32)]⟩

/-- Characters of words in ASCII. -/
def asciiWord : CharSet := ⟨[(0x30, 0x39), (0x41, 0x5A), (0x5F, 0x5F), (0x61, 0x7A)]⟩

/-- The ASCII classes that a bracket can name. -/
def namedAscii? : String → Option CharSet
  | "alnum" => some ⟨[(0x30, 0x39), (0x41, 0x5A), (0x61, 0x7A)]⟩
  | "alpha" => some ⟨[(0x41, 0x5A), (0x61, 0x7A)]⟩
  | "ascii" => some ⟨[(0, 0x7F)]⟩
  | "blank" => some ⟨[(9, 9), (32, 32)]⟩
  | "cntrl" => some ⟨[(0, 0x1F), (0x7F, 0x7F)]⟩
  | "digit" => some asciiDigit
  | "graph" => some ⟨[(0x21, 0x7E)]⟩
  | "lower" => some ⟨[(0x61, 0x7A)]⟩
  | "print" => some ⟨[(0x20, 0x7E)]⟩
  | "punct" => some ⟨[(0x21, 0x2F), (0x3A, 0x40), (0x5B, 0x60), (0x7B, 0x7E)]⟩
  | "space" => some asciiSpace
  | "upper" => some ⟨[(0x41, 0x5A)]⟩
  | "word" => some asciiWord
  | "xdigit" => some ⟨[(0x30, 0x39), (0x41, 0x46), (0x61, 0x66)]⟩
  | _ => none

/-- A property name with the marks taken out that do not count in comparisons. -/
def plainName (name : String) : String :=
  let cs := (name.toList.map Char.toLower).filter fun c =>
    c != ' ' && c != '_' && c != '-'
  String.ofList (if "is".toList.isPrefixOf cs && cs.length > 2 then cs.drop 2 else cs)

/-- Groups of general categories: short name, long name. -/
def groupNames : List (String × String) :=
  [("L", "Letter"), ("M", "Mark"), ("N", "Number"), ("P", "Punctuation"), ("S", "Symbol"),
    ("Z", "Separator"), ("C", "Other")]

/-- A row of a table that has the plain name `name` as its short or long name. -/
def findRow? (table : List (String × String × String)) (name : String) : Option CharSet :=
  (table.find? fun row => plainName row.1 == name || plainName row.2.1 == name).map fun row =>
    ofTable row.2.2

/-- A general category or group of them, by its plain name. -/
def findCategory? (name : String) : Option CharSet :=
  if name == "any" then some ⟨[(0, 0x10FFFF)]⟩
  else if name == "ascii" then some ⟨[(0, 0x7F)]⟩
  else if name == "assigned" then some (category "Cn").complement
  else if name == "lc" || name == "casedletter" then
    some (((category "Lu").union (category "Ll")).union (category "Lt"))
  else if name == "cs" || name == "surrogate" then some empty
  else match groupNames.find? fun row => plainName row.1 == name || plainName row.2 == name with
    | some row => some (categoryGroup row.1)
    | none => findRow? categoryTable name

/-- The set a property name stands for. -/
def named? (name : String) : Option CharSet :=
  let name := plainName name
  (findCategory? name).or <|
    if name == "punct" then some (categoryGroup "P")
    else if name == "digit" then some digit
    else (findRow? propertyTable name).or (findRow? scriptTable name)

/-- The set a property with a value stands for. -/
def namedValue? (name value : String) : Option CharSet :=
  let name := plainName name
  let value := plainName value
  if name == "gc" || name == "generalcategory" then findCategory? value
  else if name == "sc" || name == "script" || name == "scx" || name == "scriptextensions" then
    findRow? scriptTable value
  else none

end CharSet

end Pattern

end EventScripts
