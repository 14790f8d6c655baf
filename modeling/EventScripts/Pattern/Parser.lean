import EventScripts.Pattern.Syntax
import EventScripts.Text.Blank

/-!
# Reading patterns

`Pattern.parse` reads the text of a pattern. Flags change the reading from where they are set to
the end of the group around; the reader carries them along and applies them on the spot, so the
tree that comes out knows no flags.
-/

set_option autoImplicit false

namespace EventScripts

namespace Pattern

/-- The flags in force. -/
structure Flags where
  ignoreCase : Bool
  multiLine : Bool
  dotAll : Bool
  swapGreed : Bool
  unicode : Bool
  wideLines : Bool
  /-- Blanks and comments in the pattern are passed over. -/
  extended : Bool

/-- The flags at the beginning of a pattern. -/
def Flags.initial : Flags := ⟨false, false, false, false, true, false, false⟩

/-- Where the reader stands. -/
structure Reader where
  rest : List Char
  place : Nat
  flags : Flags
  /-- Groups numbered so far. -/
  groups : Nat
  /-- Names of groups, with their numbers, in the order of the pattern. -/
  names : List (String × Nat)

/-- A step of reading. -/
abbrev Read := StateT Reader (Except PatternError)

namespace Read

/-- Complains about the part of the pattern from `first` on. -/
def complain {α : Type} (complaint : Complaint) (first size : Nat) : Read α :=
  fun _ => .error ⟨complaint, first, size⟩

/-- The next character. -/
def peek? : Read (Option Char) := fun r => .ok (r.rest.head?, r)

/-- The place in the pattern. -/
def place : Read Nat := fun r => .ok (r.place, r)

/-- The flags that are set. -/
def flags : Read Flags := fun r => .ok (r.flags, r)

/-- Sets the flags from here on. -/
def setFlags (f : Flags) : Read Unit := modify fun r => { r with flags := f }

/-- Whether the pattern is read to its end. -/
def atEnd : Read Bool := fun r => .ok (r.rest.isEmpty, r)

/-- Passes one character; says whether another one follows. -/
def bump : Read Bool := fun r =>
  match r.rest with
  | [] => .ok (false, r)
  | _ :: cs => .ok (!cs.isEmpty, { r with rest := cs, place := r.place + 1 })

/-- Passes over blanks and comments. -/
def skipSpace : Bool → List Char → Nat → List Char × Nat
  | _, [], n => ([], n)
  | true, c :: cs, n => skipSpace (c != '\n') cs (n + 1)
  | false, c :: cs, n =>
    if isWhiteSpace c then skipSpace false cs (n + 1)
    else if c == '#' then skipSpace true cs (n + 1)
    else (c :: cs, n)

/-- Passes over blanks and comments if they do not count. -/
def bumpSpace : Read Unit := fun r =>
  if r.flags.extended then
    let (cs, n) := skipSpace false r.rest r.place
    .ok ((), { r with rest := cs, place := n })
  else .ok ((), r)

/-- Passes one character and the blanks behind it; says whether another character follows. -/
def bumpAndSpace : Read Bool := do
  if ← bump then
    bumpSpace
    return !(← atEnd)
  else return false

/-- Whether the rest begins with a word. -/
def startsWith (word : String) : Read Bool := fun r => .ok (word.toList.isPrefixOf r.rest, r)

/-- Passes a word if the rest begins with it. -/
def bumpWord (word : String) : Read Bool := fun r =>
  if word.toList.isPrefixOf r.rest then
    let n := word.toList.length
    .ok (true, { r with rest := r.rest.drop n, place := r.place + n })
  else .ok (false, r)

/-- The character behind the next one, blanks that do not count passed over. -/
def peekBehind? : Read (Option Char) := fun r =>
  match r.rest with
  | [] => .ok (none, r)
  | _ :: cs =>
    if r.flags.extended then .ok ((skipSpace false cs 0).1.head?, r) else .ok (cs.head?, r)

/-- Passes over blanks, whether they count or not. -/
def bumpBlanks : Read Unit := fun r =>
  let blanks := r.rest.takeWhile isWhiteSpace
  .ok ((), { r with rest := r.rest.drop blanks.length, place := r.place + blanks.length })

end Read

open Read

/-! ## Escapes -/

/-- Characters with a meaning of their own. -/
def isMeta (c : Char) : Bool :=
  "\\.+*?()|[]\x7b\x7d^$#&-~".toList.contains c

/-- Characters that may be escaped: all of ASCII but letters, digits and angle brackets. -/
def isEscapable (c : Char) : Bool :=
  isMeta c || (c.toNat < 0x80 && !c.isAlphanum && c != '<' && c != '>')

/-- Value of a hexadecimal digit. -/
def hexDigit? (c : Char) : Option Nat :=
  if c.isDigit then some (c.toNat - '0'.toNat)
  else if 'a' ≤ c && c ≤ 'f' then some (c.toNat - 'a'.toNat + 10)
  else if 'A' ≤ c && c ≤ 'F' then some (c.toNat - 'A'.toNat + 10)
  else none

/-- The character with a number, if it is one. -/
def charOf? (n : Nat) : Option Char :=
  if n < 0xD800 || (0xDFFF < n && n < 0x110000) then some (Char.ofNat n) else none

/-- A part of a pattern that stands for one place: a character, a set, or a condition. -/
inductive Atom where
  /-- A character, and whether it was written as a byte. -/
  | char (c : Char) (isByte : Bool)
  | set (s : CharSet)
  | look (l : Look)

/-- Reads `count` hexadecimal digits. -/
def hexDigits (start : Nat) : Nat → Nat → Bool → Read Nat
  | 0, value, _ => pure value
  | count + 1, value, first => do
    if !first then
      if !(← bumpAndSpace) then complain .escapeUnfinished start 1
    match (← peek?).bind hexDigit? with
    | none => complain .hexInvalidDigit (← place) 1
    | some d => hexDigits start count (value * 16 + d) false

/-- Reads hexadecimal digits up to a closing brace; the digits so far come in as a list. -/
def hexBrace (start : Nat) : Nat → List Nat → Read (List Nat)
  | 0, ds => pure ds
  | fuel + 1, ds => do
    if !(← bumpAndSpace) then complain .escapeUnfinished start 1
    else
      match ← peek? with
      | some '\x7d' => pure ds
      | some c =>
        match hexDigit? c with
        | none => complain .hexInvalidDigit (← place) 1
        | some d => hexBrace start fuel (ds ++ [d])
      | none => complain .escapeUnfinished start 1

/-- Reads a hexadecimal escape of `count` digits, or of any number of digits in braces. -/
def hexEscape (start : Nat) (count : Nat) (isByte : Bool) : Read Atom := do
  if !(← bumpAndSpace) then complain .escapeUnfinished start 1
  let value ← match ← peek? with
    | some '\x7b' => do
      let n := (← get).rest.length
      let ds ← hexBrace start (n + 1) []
      let _ ← bumpAndSpace
      if ds.isEmpty then complain .hexEmpty start 1
      pure (ds.foldl (fun n d => n * 16 + d) 0)
    | _ => do
      let n ← hexDigits start count 0 true
      let _ ← bumpAndSpace
      pure n
  match charOf? value with
  | some c => pure (.char c isByte)
  | none => complain .hexInvalid start 1

/-- The complement if asked for. -/
def negatedIf (negated : Bool) (s : CharSet) : CharSet :=
  if negated then s.complement else s

/-- Closes a set under case if case is ignored. -/
def foldedIf (flags : Flags) (s : CharSet) : CharSet :=
  if flags.ignoreCase then s.foldCase else s

/-- Splits a text at the first `separator`. -/
def splitFirst? (separator : String) (cs : List Char) : Option (String × String) :=
  (splitAtPart? separator.toList cs).map fun (a, b) =>
    (String.ofList a, String.ofList (b.drop separator.toList.length))

/-- The set a property is about, from the text between its braces. -/
def propertySet? (name : List Char) : Except Complaint (Bool × CharSet) :=
  let valued (p : String × String) : Except Complaint CharSet :=
    match CharSet.namedValue? p.1 p.2 with
    | some s => .ok s
    | none => .error .propertyValueNotFound
  match splitFirst? "!=" name with
  | some p => (valued p).map fun s => (true, s)
  | none =>
    match splitFirst? ":" name with
    | some p => (valued p).map fun s => (false, s)
    | none =>
      match splitFirst? "=" name with
      | some p => (valued p).map fun s => (false, s)
      | none =>
        match CharSet.named? (String.ofList name) with
        | some s => .ok (false, s)
        | none => .error .propertyNotFound

/-- Reads up to a closing brace, which is passed. -/
def untilBrace (start : Nat) : Nat → List Char → Read (List Char)
  | 0, cs => pure cs
  | fuel + 1, cs => do
    if !(← bumpAndSpace) then complain .escapeUnfinished start 1
    else
      match ← peek? with
      | some '\x7d' => do
        let _ ← bump
        pure cs
      | some c => untilBrace start fuel (cs ++ [c])
      | none => complain .escapeUnfinished start 1

/-- Reads a property, from its letter on. -/
def propertyEscape (start : Nat) (negated : Bool) : Read Atom := do
  if !(← bumpAndSpace) then complain .escapeUnfinished start 1
  let name ← match ← peek? with
    | some '\x7b' => do
      let n := (← get).rest.length
      untilBrace start (n + 1) []
    | some '\\' => complain .propertyInvalid (← place) 1
    | some c => do
      let _ ← bumpAndSpace
      pure [c]
    | none => complain .escapeUnfinished start 1
  let flags ← flags
  if !flags.unicode then complain .unicodeNotAllowed start ((← place) - start)
  match propertySet? name with
  | .ok (differs, s) =>
    pure (.set (negatedIf (negated != differs) (foldedIf flags s)))
  | .error c => complain c start ((← place) - start)

/-- Reads one of the short classes, from its letter on. -/
def shortClass (start : Nat) (c : Char) : Read Atom := do
  let _ ← bump
  let flags ← flags
  let s := match c.toLower, flags.unicode with
    | 'd', true => CharSet.digit
    | 's', true => CharSet.space
    | 'w', true => CharSet.word
    | 'd', false => CharSet.asciiDigit
    | 's', false => CharSet.asciiSpace
    | _, _ => CharSet.asciiWord
  if c.isUpper && !flags.unicode then complain .invalidText start 2
  pure (.set (negatedIf c.isUpper s))

/-- Letters of the names of special word boundaries. -/
def isBoundaryLetter (c : Char) : Bool :=
  c.isAlpha || c == '-'

/-- Reads the name of a special word boundary. -/
def boundaryName : Nat → List Char → Read (List Char)
  | 0, cs => pure cs
  | fuel + 1, cs => do
    match ← peek? with
    | some c =>
      if isBoundaryLetter c then
        let _ ← bumpAndSpace
        boundaryName fuel (cs ++ [c])
      else pure cs
    | none => pure cs

/-- Reads what may follow in braces behind a word boundary; a count is left alone. -/
def specialBoundary (start : Nat) (unicode : Bool) : Read Look := do
  if (← peek?) != some '\x7b' then return .wordBoundary unicode
  let saved ← get
  if !(← bumpAndSpace) then complain .boundaryUnfinished start 3
  match ← peek? with
  | some c =>
    if !isBoundaryLetter c then
      set saved
      return .wordBoundary unicode
  | none => pure ()
  let name ← boundaryName ((← get).rest.length + 1) []
  if (← peek?) != some '\x7d' then complain .boundaryUnclosed start 3
  let _ ← bump
  match String.ofList name with
  | "start" => return .wordStart unicode
  | "end" => return .wordFinish unicode
  | "start-half" => return .wordStartHalf unicode
  | "end-half" => return .wordFinishHalf unicode
  | _ => complain .boundaryUnrecognized start 3

/-- Reads an escape, from its backslash on. -/
def escape : Read Atom := do
  let start ← place
  if !(← bump) then complain .escapeUnfinished start 1
  match ← peek? with
  | none => complain .escapeUnfinished start 1
  | some c =>
    if c.isDigit then complain .backreference start 2
    else if c == 'x' then hexEscape start 2 true
    else if c == 'u' then hexEscape start 4 false
    else if c == 'U' then hexEscape start 8 false
    else if c == 'p' || c == 'P' then propertyEscape start (c == 'P')
    else if "dswDSW".toList.contains c then shortClass start c
    else
      let _ ← bump
      let unicode := (← flags).unicode
      if isEscapable c then return .char c false
      match c with
      | 'a' => return .char '\x07' false
      | 'f' => return .char '\x0c' false
      | 't' => return .char '\t' false
      | 'n' => return .char '\n' false
      | 'r' => return .char '\r' false
      | 'v' => return .char '\x0b' false
      | 'A' => return .look .start
      | 'z' => return .look .finish
      | 'b' => return .look (← specialBoundary start unicode)
      | 'B' => return .look (.notWordBoundary unicode)
      | '<' => return .look (.wordStart unicode)
      | '>' => return .look (.wordFinish unicode)
      | _ => complain .escapeUnrecognized start 2

/-! ## Bracketed classes -/

/-- How the sets on both sides of an operator are joined. -/
inductive ClassOp where
  | inter | diff | symmDiff

/-- Joins two sets. -/
def ClassOp.apply : ClassOp → CharSet → CharSet → CharSet
  | .inter, s, t => s.inter t
  | .diff, s, t => s.diff t
  | .symmDiff, s, t => s.symmDiff t

/-- A bracket that is being read: the set to the left of an operator, with the operator, and the
ranges since then. -/
structure Bracket where
  left : Option (CharSet × ClassOp)
  items : List (Nat × Nat)

/-- The set of a bracket as read so far. -/
def Bracket.close (flags : Flags) (b : Bracket) : CharSet :=
  let right := foldedIf flags (CharSet.ofRanges b.items)
  match b.left with
  | some (l, op) => op.apply l right
  | none => right

/-- One item of a bracket that is not itself a bracket. -/
def classItem : Read Atom := do
  match ← peek? with
  | some '\\' => escape
  | some c => do
    let _ ← bump
    pure (.char c false)
  | none => complain .classUnclosed (← place) 0

/-- The character an end of a range has to be. -/
def rangeEnd (first : Nat) : Atom → Read Char
  | .char c _ => pure c
  | _ => do complain .classRangeLiteral first ((← place) - first)

/-- Whether a character may stand in a class in the current mode. -/
def checkClassChar (first : Nat) (c : Char) (isByte : Bool) : Read Unit := do
  if !(← flags).unicode && c.toNat ≥ 0x80 then
    complain (if isByte then .invalidText else .unicodeNotAllowed) first ((← place) - first)

/-- Reads an item or a range of a bracket. -/
def classRange (opened : Nat) : Read (List (Nat × Nat)) := do
  let first ← place
  let a ← classItem
  bumpSpace
  if ← atEnd then complain .classUnclosed opened 1
  let behind ← peekBehind?
  if (← peek?) != some '-' || behind == some ']' || behind == some '-' then
    match a with
    | .char c isByte => do
      checkClassChar first c isByte
      pure [(c.toNat, c.toNat)]
    | .set s => pure s.ranges
    | .look _ => complain .classEscapeInvalid first ((← place) - first)
  else
    if !(← bumpAndSpace) then complain .classUnclosed opened 1
    let b ← classItem
    let lo ← rangeEnd first a
    let hi ← rangeEnd first b
    if hi < lo then complain .classRangeInvalid first ((← place) - first)
    checkClassChar first lo false
    checkClassChar first hi false
    pure [(lo.toNat, hi.toNat)]

/-- Reads a named ASCII class such as `[:alpha:]`, if one comes next. -/
def asciiClass? : Read (Option CharSet) := fun r =>
  match r.rest with
  | '[' :: ':' :: cs =>
    let (negated, cs, n) := match cs with
      | '^' :: more => (true, more, 3)
      | _ => (false, cs, 2)
    let name := cs.takeWhile (· != ':')
    match cs.drop name.length with
    | ':' :: ']' :: rest =>
      match CharSet.namedAscii? (String.ofList name) with
      | some s =>
        .ok (some (negatedIf negated s),
          { r with rest := rest, place := r.place + n + name.length + 2 })
      | none => .ok (none, r)
    | _ => .ok (none, r)
  | _ => .ok (none, r)

/-- Reads dashes that stand for themselves at the front of a bracket. -/
def leadingDashes (opened : Nat) : Nat → List (Nat × Nat) → Read (List (Nat × Nat))
  | 0, items => pure items
  | fuel + 1, items => do
    if (← peek?) == some '-' then
      if !(← bumpAndSpace) then complain .classUnclosed opened 1
      leadingDashes opened fuel (('-'.toNat, '-'.toNat) :: items)
    else pure items

mutual

/-- Reads a bracket, from its opening on. -/
def bracket : Nat → Read CharSet
  | 0 => do complain .classUnclosed (← place) 1
  | fuel + 1 => do
    let opened ← place
    if !(← bumpAndSpace) then complain .classUnclosed opened 1
    let negated := (← peek?) == some '^'
    if negated then
      if !(← bumpAndSpace) then complain .classUnclosed opened 1
    let items ← leadingDashes opened ((← get).rest.length) []
    let items ←
      if items.isEmpty && (← peek?) == some ']' then do
        if !(← bumpAndSpace) then complain .classUnclosed opened 1
        pure [(']'.toNat, ']'.toNat)]
      else pure items
    let b ← bracketItems opened fuel ⟨none, items⟩
    let flags ← flags
    if negated && !flags.unicode then
      complain .invalidText opened ((← place) - opened)
    pure (negatedIf negated (b.close flags))

/-- Reads the items of a bracket, its closing included. -/
def bracketItems (opened : Nat) : Nat → Bracket → Read Bracket
  | 0, _ => complain .classUnclosed opened 1
  | fuel + 1, b => do
    bumpSpace
    let operator (op : ClassOp) : Read Bracket := do
      let flags ← flags
      pure ⟨some (b.close flags, op), []⟩
    match ← peek? with
    | none => complain .classUnclosed opened 1
    | some '[' => do
      match ← asciiClass? with
      | some s => bracketItems opened fuel { b with items := b.items ++ s.ranges }
      | none => do
        let s ← bracket fuel
        bracketItems opened fuel { b with items := b.items ++ s.ranges }
    | some ']' => do
      let _ ← bump
      pure b
    | some _ =>
      if ← bumpWord "&&" then bracketItems opened fuel (← operator .inter)
      else if ← bumpWord "--" then bracketItems opened fuel (← operator .diff)
      else if ← bumpWord "~~" then bracketItems opened fuel (← operator .symmDiff)
      else do
        let items ← classRange opened
        bracketItems opened fuel { b with items := b.items ++ items }

end

/-! ## Repetitions -/

/-- Reads a decimal number with blanks around it; `none` when there is no digit. -/
def decimal? : Read (Option Nat) := do
  bumpBlanks
  let start ← place
  let ds := (← get).rest.takeWhile Char.isDigit
  modify fun r => { r with rest := r.rest.drop ds.length, place := r.place + ds.length }
  bumpBlanks
  if ds.isEmpty then pure none
  else
    let n := ds.foldl (fun n c => n * 10 + (c.toNat - '0'.toNat)) 0
    if n ≥ UInt32.size then complain .decimalInvalid start ds.length
    pure (some n)

/-- Whether a repetition is greedy: a question mark behind it turns that around. -/
def greed (swap : Bool) : Read Bool := do
  if (← peek?) == some '?' then
    let _ ← bump
    pure swap
  else pure !swap

/-- Reads a counted repetition, from its brace on: the counts, and whether it is greedy. -/
def counts : Read (Nat × Option Nat × Bool) := do
  let start ← place
  let unclosed {α : Type} : Read α := do complain .repetitionUnclosed start ((← place) - start)
  if !(← bumpAndSpace) then unclosed
  let least ← decimal?
  let some next ← peek? | unclosed
  let (lo, hi) : Nat × Option Nat ←
    if next == ',' then do
      if !(← bumpAndSpace) then unclosed
      if (← peek?) == some '\x7d' then
        match least with
        | some n => pure (n, none)
        | none => complain .repetitionEmpty start 1
      else
        match least with
        | none => complain .repetitionEmpty start 1
        | some n => do
          match ← decimal? with
          | none => complain .repetitionEmpty start 1
          | some m => pure (n, some m)
    else
      match least with
      | some n => pure (n, some n)
      | none => complain .repetitionEmpty start 1
  if (← peek?) != some '\x7d' then unclosed
  let more ← bumpAndSpace
  let swap := (← flags).swapGreed
  let greedy ← if more then greed swap else pure !swap
  match hi with
  | some m => if m < lo then complain .repetitionInvalid start ((← place) - start)
  | none => pure ()
  pure (lo, hi, greedy)

/-! ## Groups -/

/-- A flag letter. -/
def flagOf? : Char → Option (Flags → Bool → Flags)
  | 'i' => some fun f b => { f with ignoreCase := b }
  | 'm' => some fun f b => { f with multiLine := b }
  | 's' => some fun f b => { f with dotAll := b }
  | 'U' => some fun f b => { f with swapGreed := b }
  | 'u' => some fun f b => { f with unicode := b }
  | 'R' => some fun f b => { f with wideLines := b }
  | 'x' => some fun f b => { f with extended := b }
  | _ => none

/-- Reads flags up to a colon or parenthesis: the flags that result, and whether any was read.
`seen` holds the letters so far, `off` says whether a minus was read, `dangling` whether it was
the last thing read. -/
def flagList : Nat → Flags → List Char → Bool → Bool → Read (Flags × Bool)
  | 0, f, seen, _, _ => pure (f, !seen.isEmpty)
  | fuel + 1, f, seen, off, dangling => do
    let here ← place
    match ← peek? with
    | none => complain .flagUnfinished here 0
    | some c =>
      if c == ':' || c == ')' then
        if dangling then complain .flagDanglingNegation (here - 1) 1
        pure (f, off || !seen.isEmpty)
      else if c == '-' then
        if off then complain .flagRepeatedNegation here 1
        if !(← bump) then complain .flagUnfinished (here + 1) 0
        flagList fuel f seen true true
      else
        match flagOf? c with
        | none => complain .flagUnrecognized here 1
        | some change =>
          if seen.contains c then complain .flagDuplicate here 1
          if !(← bump) then complain .flagUnfinished (here + 1) 0
          flagList fuel (change f !off) (c :: seen) off false

/-- Whether a character may stand in the name of a group. -/
def isNameChar (first : Bool) (c : Char) : Bool :=
  if first then c == '_' || CharSet.letter.contains c
  else c == '_' || c == '.' || c == '[' || c == ']' || CharSet.alphanumeric.contains c

/-- Reads the characters of a group's name. -/
def groupNameChars : Nat → List Char → Read (List Char)
  | 0, cs => pure cs
  | fuel + 1, cs => do
    match ← peek? with
    | none => complain .groupNameUnfinished (← place) 0
    | some '>' => do
      let _ ← bump
      pure cs
    | some c => do
      if !isNameChar cs.isEmpty c then complain .groupNameInvalid (← place) 1
      let _ ← bump
      groupNameChars fuel (cs ++ [c])

/-- Reads the name of the group numbered `index`. -/
def groupName (index : Nat) : Read Unit := do
  let start ← place
  let cs ← groupNameChars ((← get).rest.length + 1) []
  if cs.isEmpty then complain .groupNameEmpty start 0
  let name := String.ofList cs
  if (← get).names.any (·.1 == name) then complain .groupNameDuplicate start cs.length
  modify fun r => { r with names := r.names ++ [(name, index)] }

/-- The next number of a group. -/
def nextGroup : Read Nat := do
  modify fun r => { r with groups := r.groups + 1 }
  return (← get).groups

/-- What an opening parenthesis begins. -/
inductive Opening where
  /-- Flags for the rest of the group around. -/
  | flags
  | capture (index : Nat)
  | plain

/-- Reads the opening of a group. Flags of the group itself are in force afterwards. -/
def opening : Read Opening := do
  let start ← place
  let _ ← bump
  bumpSpace
  for word in ["?=", "?!", "?<=", "?<!"] do
    if ← startsWith word then complain .lookAround start (1 + word.length)
  let inner ← place
  if (← bumpWord "?P<") || (← bumpWord "?<") then
    let index ← nextGroup
    if ← atEnd then complain .groupNameUnfinished (← place) 0
    groupName index
    pure (.capture index)
  else if ← bumpWord "?" then
    if ← atEnd then complain .groupUnclosed start 1
    let (f, any) ← flagList ((← get).rest.length + 1) (← flags) [] false false
    let last ← peek?
    let _ ← bump
    if last == some ')' then
      if !any then complain .repetitionMissing inner 1
      setFlags f
      pure .flags
    else
      setFlags f
      pure .plain
  else
    let index ← nextGroup
    pure (.capture index)

/-! ## Whole patterns -/

/-- Parts that follow each other as one. -/
def joined (parts : List Node) : Node :=
  match parts with
  | [] => .empty
  | [n] => n
  | ns => .concat ns

/-- The pattern of an atom. -/
def atomNode (first : Nat) : Atom → Read Node
  | .set s => pure (.one s)
  | .look l => pure (.look l)
  | .char c isByte => do
    let flags ← flags
    if isByte && !flags.unicode && c.toNat ≥ 0x80 then
      complain .invalidText first ((← place) - first)
    let s := CharSet.single c
    pure (.one (if flags.unicode || c.toNat < 0x80 then foldedIf flags s else s))

/-- Reads a character, escape or sign that stands alone. -/
def primitive : Read Node := do
  let first ← place
  let flags ← flags
  match ← peek? with
  | some '\\' => do atomNode first (← escape)
  | some '.' => do
    let _ ← bump
    if !flags.unicode then complain .invalidText first 1
    pure <| .one <|
      if flags.dotAll then CharSet.empty.complement
      else if flags.wideLines then
        (CharSet.ofRanges [(10, 10), (13, 13)]).complement
      else (CharSet.single '\n').complement
  | some '^' => do
    let _ ← bump
    pure (.look (if !flags.multiLine then .start
      else if flags.wideLines then .wideLineStart else .lineStart))
  | some '$' => do
    let _ ← bump
    pure (.look (if !flags.multiLine then .finish
      else if flags.wideLines then .wideLineFinish else .lineFinish))
  | some c => do
    let _ ← bump
    atomNode first (.char c false)
  | none => pure .empty

/-- Repeats the last of the parts, which come last first. A part without a pattern (flags) cannot
be repeated. -/
def repeatLast (start : Nat) (parts : List (Option Node))
    (count : Read (Nat × Option Nat × Bool)) : Read (List (Option Node)) := do
  match parts with
  | some n :: before => do
    let (lo, hi, greedy) ← count
    let node := if hi == some 0 then .empty else .repeated lo hi greedy n
    pure (some node :: before)
  | _ => complain .repetitionMissing start 1

/-- Reads a repetition sign and whether it is greedy. -/
def sign (least : Nat) (most : Option Nat) : Read (Nat × Option Nat × Bool) := do
  let _ ← bump
  pure (least, most, ← greed (← flags).swapGreed)

/-- Reads alternatives up to the end of the group or pattern. `parts` holds what has been read of
the current alternative, last part first, and `done` the alternatives before it. -/
def alternatives : Nat → List (Option Node) → List Node → Read Node
  | 0, _, _ => pure .empty
  | fuel + 1, parts, done => do
    bumpSpace
    let here ← place
    let alternative := joined (parts.reverse.filterMap id)
    let finished : Node := match done with
      | [] => alternative
      | _ => .alternate (done ++ [alternative])
    match ← peek? with
    | none => pure finished
    | some ')' => pure finished
    | some '|' => do
      let _ ← bump
      alternatives fuel [] (done ++ [alternative])
    | some '(' => do
      let outer ← flags
      match ← opening with
      | .flags => alternatives fuel (none :: parts) done
      | kind => do
        let body ← alternatives fuel [] []
        if (← peek?) != some ')' then complain .groupUnclosed here 1
        let _ ← bump
        setFlags outer
        let node : Node := match kind with
          | .capture index => .group index body
          | _ => body
        alternatives fuel (some node :: parts) done
    | some '[' => do
      let s ← bracket ((← get).rest.length + 1)
      alternatives fuel (some (.one s) :: parts) done
    | some '?' => do alternatives fuel (← repeatLast here parts (sign 0 (some 1))) done
    | some '*' => do alternatives fuel (← repeatLast here parts (sign 0 none)) done
    | some '+' => do alternatives fuel (← repeatLast here parts (sign 1 none)) done
    | some '\x7b' => do alternatives fuel (← repeatLast here parts counts) done
    | some _ => do alternatives fuel (some (← primitive) :: parts) done

/-- Reads a whole pattern: its tree, and where the reader stands at its end. -/
def parse (text : String) : Except PatternError (Node × Reader) := do
  let cs := text.toList
  let (node, reader) ← (alternatives (cs.length + 1) [] []).run ⟨cs, 0, .initial, 0, []⟩
  if reader.rest.isEmpty then .ok (node, reader)
  else .error ⟨.groupUnopened, reader.place, 1⟩

end Pattern

end EventScripts
