import EventScripts.Pattern.Program

/-!
# Searching with a program

The search walks through the subject once, with all threads of the program side by side in order
of preference. A thread that accepts cuts off the threads behind it; threads in front of it may
still replace its match by a longer one they prefer. The first place where any thread accepts
wins, and at that place the preferred way of matching.
-/

set_option autoImplicit false

namespace EventScripts

namespace Pattern

/-- A span of places in a subject, the end not included. -/
abbrev Span := Nat × Nat

/-- Places noted by a thread. -/
abbrev Slots := Array (Option Nat)

/-- A thread: the state it stands at and the places it noted. -/
abbrev Thread := Nat × Slots

/-- Threads that wait for the next character, in order of preference, and the states that have
been visited at this place. -/
structure Front where
  threads : Array Thread
  seen : Array Bool

/-- Whether the character at a place is a word character; a place outside has none. -/
def isWordAt (unicode : Bool) (c : Option Char) : Bool :=
  match c with
  | some c => (if unicode then CharSet.word else CharSet.asciiWord).contains c
  | none => false

/-- Whether a condition holds between two characters. -/
def Look.holds (before after : Option Char) : Look → Bool
  | .start => before.isNone
  | .finish => after.isNone
  | .lineStart => before.isNone || before == some '\n'
  | .lineFinish => after.isNone || after == some '\n'
  | .wideLineStart =>
    before.isNone || before == some '\n' || (before == some '\r' && after != some '\n')
  | .wideLineFinish =>
    after.isNone || after == some '\r' || (after == some '\n' && before != some '\r')
  | .wordBoundary u => isWordAt u before != isWordAt u after
  | .notWordBoundary u => isWordAt u before == isWordAt u after
  | .wordStart u => !isWordAt u before && isWordAt u after
  | .wordFinish u => isWordAt u before && !isWordAt u after
  | .wordStartHalf u => !isWordAt u before
  | .wordFinishHalf u => !isWordAt u after

/-- Follows a thread through all states that need no character. The first argument bounds the
depth, which is at most the number of states. -/
def follow (p : Program) (place : Nat) (before after : Option Char) :
    Nat → Nat → Slots → Front → Front
  | 0, _, _, front => front
  | depth + 1, state, slots, front =>
    if front.seen[state]?.getD true then front
    else
      let front := { front with seen := front.seen.setIfInBounds state true }
      match p[state]? with
      | none => front
      | some (.one _ _) => { front with threads := front.threads.push (state, slots) }
      | some .accept => { front with threads := front.threads.push (state, slots) }
      | some (.look l next) =>
        if l.holds before after then follow p place before after depth next slots front else front
      | some (.mark slot next) =>
        follow p place before after depth next (slots.setIfInBounds slot (some place)) front
      | some (.choice nexts) =>
        nexts.foldl (fun front next => follow p place before after depth next slots front) front

/-- A place without threads. -/
def Front.none (p : Program) : Front := ⟨#[], Array.replicate p.size false⟩

/-- Moves threads over a character, in order. Gives the front behind it, and the noted places of
a thread that accepts in front of it; threads behind that one are dropped. -/
def advance (p : Program) (place : Nat) (c after : Option Char) :
    List Thread → Front → Front × Option Slots
  | [], front => (front, .none)
  | (state, slots) :: rest, front =>
    match p[state]? with
    | some (.one s next) =>
      match c with
      | some ch =>
        if s.contains ch then
          advance p place c after rest
            (follow p (place + 1) (some ch) after (p.size + 1) next slots front)
        else advance p place c after rest front
      | Option.none => advance p place c after rest front
    | some .accept => (front, some slots)
    | _ => advance p place c after rest front

/-- Searches on from a place. `before` is the character in front of it and `rest` the characters
behind it; `best` holds the places noted by the match so far and its end. -/
def searchFrom (p : Program) (start slotCount : Nat) :
    List Char → Nat → Option Char → Front → Option (Slots × Nat) → Option (Slots × Nat)
  | rest, place, before, front, best =>
    let c := rest.head?
    let front := match best with
      | some _ => front
      | none =>
        let fresh : Slots := (Array.replicate slotCount Option.none).setIfInBounds 0 (some place)
        follow p place before c (p.size + 1) start fresh front
    let (next, accepted) :=
      advance p place c (rest.drop 1).head? front.threads.toList (Front.none p)
    let best := match accepted with
      | some slots => some (slots, place)
      | none => best
    match rest with
    | [] => best
    | ch :: more =>
      if best.isSome && next.threads.isEmpty then best
      else searchFrom p start slotCount more (place + 1) (some ch) next best

end Pattern

end EventScripts
