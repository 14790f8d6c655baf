import EventScripts.Pattern.Syntax

/-!
# Programs of patterns

A pattern is turned into a program of states in which a choice lists its continuations in order
of preference. A loop around something that can match nothing is entered through a choice of its
own, so that one empty round is preferred over none exactly when the pattern says so.
-/

set_option autoImplicit false

namespace EventScripts

namespace Pattern

/-- A state of a program. -/
inductive Step where
  /-- Passes one character of a set. -/
  | one (s : CharSet) (next : Nat)
  /-- Goes on where a condition holds. -/
  | look (l : Look) (next : Nat)
  /-- Goes on at any of several states, the first preferred. -/
  | choice (nexts : List Nat)
  /-- Notes the current place. -/
  | mark (slot : Nat) (next : Nat)
  | accept

/-- A program: its states are numbered from zero. -/
abbrev Program := Array Step

mutual

/-- Whether a pattern can match nothing. -/
def Node.nullable : Node → Bool
  | .empty => true
  | .one _ => false
  | .look _ => true
  | .group _ n => n.nullable
  | .concat ns => allNullable ns
  | .alternate ns => anyNullable ns
  | .repeated least _ _ n => least == 0 || n.nullable

/-- Whether each of these patterns can match nothing. -/
def allNullable : List Node → Bool
  | [] => true
  | n :: ns => n.nullable && allNullable ns

/-- Whether one of these patterns can match nothing. -/
def anyNullable : List Node → Bool
  | [] => false
  | n :: ns => n.nullable || anyNullable ns

end

/-- Adds a state: its number, and the program with it. -/
def add (step : Step) (p : Program) : Nat × Program :=
  (p.size, p.push step)

/-- A choice between going round and going on. -/
def choose (greedy : Bool) (round next : Nat) : Step :=
  .choice (if greedy then [round, next] else [next, round])

/-- Puts `count` copies of a part in front of the state `next`. -/
def copies (part : Nat → Program → Nat × Program) : Nat → Nat → Program → Nat × Program
  | 0, next, p => (next, p)
  | count + 1, next, p =>
    let (start, p) := part next p
    copies part count start p

/-- Puts `count` copies of a part in front of the state `next`, each of which may be left out
together with those behind it. -/
def options (part : Nat → Program → Nat × Program) (greedy : Bool) (next : Nat) :
    Nat → Nat → Program → Nat × Program
  | 0, here, p => (here, p)
  | count + 1, here, p =>
    let (start, p) := part here p
    let (choice, p) := add (choose greedy start next) p
    options part greedy next count choice p

/-- Puts any number of copies of a part, at least `least`, in front of the state `next`. -/
def loop (part : Nat → Program → Nat × Program) (nullable greedy : Bool) (least next : Nat)
    (p : Program) : Nat × Program :=
  let (choice, p) := add .accept p
  let (start, p) := part choice p
  let p := p.setIfInBounds choice (choose greedy start next)
  match least with
  | 0 => if nullable then add (choose greedy start next) p else (choice, p)
  | least + 1 => copies part least start p

mutual

/-- Puts a pattern in front of the state `next`: the state it starts at, and the program. -/
def Node.emit : Node → Nat → Program → Nat × Program
  | .empty, next, p => (next, p)
  | .one s, next, p => add (.one s next) p
  | .look l, next, p => add (.look l next) p
  | .group index n, next, p =>
    let (finish, p) := add (.mark (2 * index + 1) next) p
    let (start, p) := n.emit finish p
    add (.mark (2 * index) start) p
  | .concat ns, next, p => emitAll ns next p
  | .alternate ns, next, p =>
    let (starts, p) := emitEach ns next p
    add (.choice starts) p
  | .repeated least none greedy n, next, p =>
    loop (fun next p => n.emit next p) n.nullable greedy least next p
  | .repeated least (some most) greedy n, next, p =>
    let (start, p) := options (fun next p => n.emit next p) greedy next (most - least) next p
    copies (fun next p => n.emit next p) least start p

/-- Puts patterns that follow each other in front of a state. -/
def emitAll : List Node → Nat → Program → Nat × Program
  | [], next, p => (next, p)
  | n :: ns, next, p =>
    let (start, p) := emitAll ns next p
    n.emit start p

/-- Puts each of several patterns in front of a state. -/
def emitEach : List Node → Nat → Program → List Nat × Program
  | [], _, p => ([], p)
  | n :: ns, next, p =>
    let (start, p) := n.emit next p
    let (starts, p) := emitEach ns next p
    (start :: starts, p)

end

mutual

/-- The greatest number of a group, zero when there is none. -/
def Node.groups : Node → Nat
  | .group index n => max index n.groups
  | .concat ns => groupsOf ns
  | .alternate ns => groupsOf ns
  | .repeated _ _ _ n => n.groups
  | _ => 0

/-- The greatest number of a group in any of these patterns. -/
def groupsOf : List Node → Nat
  | [] => 0
  | n :: ns => max n.groups (groupsOf ns)

end

mutual

/-- Whether a group is part of a pattern. What is repeated zero times is none, and its groups with
it, though they keep their numbers. -/
def Node.hasGroup (index : Nat) : Node → Bool
  | .group i n => i == index || n.hasGroup index
  | .concat ns => anyHasGroup index ns
  | .alternate ns => anyHasGroup index ns
  | .repeated _ _ _ n => n.hasGroup index
  | _ => false

/-- Whether a group is part of one of these patterns. -/
def anyHasGroup (index : Nat) : List Node → Bool
  | [] => false
  | n :: ns => n.hasGroup index || anyHasGroup index ns

end

end Pattern

end EventScripts
