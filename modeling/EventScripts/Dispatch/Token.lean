/-!
# Tokens of dispatch sites

A site that calls a script function (a trigger, an alias, a timer) keeps one token. Once the token
is broken, the site is skipped. The only way back is a new machine: a token remembers the
generation of the machine in which it was settled, and one of an earlier generation starts over.
-/

set_option autoImplicit false

namespace EventScripts

/-- What is known of the function that a site calls. -/
inductive TokenState where
  | unresolved
  | resolved
  | broken
  deriving DecidableEq, Inhabited

namespace TokenState

/-- All states. -/
def all : List TokenState := [.unresolved, .resolved, .broken]

/-- The name under which a state is written. -/
def name : TokenState → String
  | .unresolved => "unresolved"
  | .resolved => "resolved"
  | .broken => "broken"

/-- The state written under a name. -/
def ofName? (name : String) : Option TokenState :=
  all.find? (·.name == name)

end TokenState

/-- The token of a dispatch site: a state, and the generation to which it belongs. -/
structure Token where
  state : TokenState
  generation : Nat
  deriving DecidableEq, Inhabited

namespace Token

/-- The token of a new site. -/
def fresh : Token := ⟨.unresolved, 0⟩

/-- Whether the site is skipped. -/
def isBroken (t : Token) : Bool := t.state == .broken

/-- Brings a token into a generation: one that was settled earlier starts over. -/
def sync (t : Token) (generation : Nat) : Token :=
  if t.generation < generation then ⟨.unresolved, generation⟩ else t

/-- The function was found. A broken token stays broken. -/
def markResolved (t : Token) : Token :=
  if t.state = .unresolved then { t with state := .resolved } else t

/-- The function is missing or has failed. -/
def markBroken (t : Token) : Token := { t with state := .broken }

end Token

end EventScripts
