import EventScripts.Bytes
import EventScripts.Pattern.Parser
import EventScripts.Pattern.Search

/-!
# Compiled patterns

A compiled pattern is what it answers about a subject: `Pattern.spans?` is the first match from a
byte place on, by the spans of the whole match and of its groups in bytes, and `Pattern.matchesOf`
lists the matches one after the other. `Pattern.compile` reads a pattern once. Its searches run the
program of the pattern; of several matches, each search starts where the last match ended, and an
empty match at that very place is passed over by searching from the next character.
-/

set_option autoImplicit false

namespace EventScripts

/-- A compiled pattern, by what it answers. -/
structure Pattern where
  /-- Number of groups, the whole match not counted. -/
  groups : Nat
  /-- Names of groups with their numbers, in the order of the pattern. -/
  names : List (String × Nat)
  /-- The spans of the first match in a subject that starts at or behind a byte place, the whole
  match first; `none` inside for a group that took no part. -/
  spans? : String → Nat → Option (List (Option Pattern.Span))
  /-- All matches of a subject, in order. -/
  matchesOf : String → List (List (Option Pattern.Span))

namespace Pattern

/-- Number of bytes of a character. -/
def byteSize (c : Char) : Nat := (String.utf8EncodeChar c).length

/-- The places of the characters of a text and of its end, in bytes from `base`. -/
def bytePlaces (base : Nat) : List Char → List Nat
  | [] => [base]
  | c :: cs => base :: bytePlaces (base + byteSize c) cs

/-- Splits a text at the first character that begins at or behind a byte place: how many
characters are in front of it, the last of them, and the rest. -/
def splitAtByte (place : Nat) : Nat → Nat → Option Char → List Char → Nat × Option Char × List Char
  | _, count, before, [] => (count, before, [])
  | base, count, before, c :: cs =>
    if place ≤ base then (count, before, c :: cs)
    else splitAtByte place (base + byteSize c) (count + 1) (some c) cs

/-- The spans of a match, in bytes. -/
def spansOf (places : Array Nat) (groups : Nat) (slots : Slots) (finish : Nat) :
    List (Option Span) :=
  let byteOf := fun n => places[n]?.getD 0
  (List.range (groups + 1)).map fun i =>
    let first := slots[2 * i]?.getD none
    let last := if i = 0 then some finish else slots[2 * i + 1]?.getD none
    match first, last with
    | some a, some b => some (byteOf a, byteOf b)
    | _, _ => none

/-- The spans of the first match of a program that starts at or behind a byte place. -/
def firstMatch? (p : Program) (start groups : Nat) (subject : String) (place : Nat) :
    Option (List (Option Span)) :=
  let cs := subject.toList
  let places := (bytePlaces 0 cs).toArray
  if place > places.back?.getD 0 then none
  else
    let (count, before, rest) := splitAtByte place 0 0 none cs
    (searchFrom p start (2 * (groups + 1)) rest count before (Front.none p) none).map
      fun (slots, finish) => spansOf places groups slots finish

/-- The whole span of a match. -/
def wholeSpan (spans : List (Option Span)) : Span :=
  (spans.head?.getD none).getD (0, 0)

/-- The matches from a place on; `last` is the end of the match before. The first argument bounds
their number. -/
def matchesFrom (find : Nat → Option (List (Option Span))) :
    Nat → Nat → Option Nat → List (List (Option Span))
  | 0, _, _ => []
  | fuel + 1, place, last =>
    match find place with
    | none => []
    | some spans =>
      let (a, b) := wholeSpan spans
      if a = b && last == some b then
        match find (place + 1) with
        | none => []
        | some spans =>
          let b := (wholeSpan spans).2
          spans :: matchesFrom find fuel b (some b)
      else spans :: matchesFrom find fuel b (some b)

/-- The pattern that a tree stands for; a name is kept if the tree has its group. -/
def ofNode (node : Node) (names : List (String × Nat)) : Pattern :=
  let (start, program) := node.emit 0 #[.accept]
  let groups := node.groups
  let find := firstMatch? program start groups
  { groups
    names := names.filter fun (_, n) => node.hasGroup n
    spans? := find
    matchesOf := fun subject => matchesFrom (find subject) ((textBytes subject).length + 2) 0 none }

/-- Reads a pattern. -/
def compile (text : String) : Except PatternError Pattern := do
  let (node, reader) ← parse text
  .ok (ofNode node reader.names)

/-- A text with every character escaped that would mean something in a pattern. -/
def escapeText (text : String) : String :=
  String.ofList (text.toList.flatMap fun c => if isMeta c then ['\\', c] else [c])

end Pattern

end EventScripts
