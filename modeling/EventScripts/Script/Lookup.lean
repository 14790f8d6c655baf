import EventScripts.Script.Invocation

/-!
# Looking up names with dots

A name such as `a.b.c` is followed from a table, mostly that of the global variables, through
tables. Metatables are honoured, and a metatable that fails counts as "not there". Each part but
the last has to be a table, and no part may be empty.
-/

set_option autoImplicit false

namespace EventScripts

namespace Script

/-- The parts of a name between its dots. -/
def segments : List Char → List (List Char)
  | [] => [[]]
  | c :: cs =>
    if c == '.' then [] :: segments cs
    else match segments cs with
      | part :: parts => (c :: part) :: parts
      | [] => [[c]]

/-- The field of a table; nil if asking for it fails. -/
def fieldOrNil (v : Value) (part : List Char) : Machine Value :=
  tryCatch (Machine.index invoke .outside none v (.text (String.ofList part))) fun _ => pure .nil

/-- Follows the parts of a name from a value on. -/
def follow : Value → List (List Char) → Machine (Option Value)
  | v, [] => pure (some v)
  | v, part :: parts => do
    match v with
    | .table _ =>
      if part.isEmpty then pure none
      else follow (← fieldOrNil v part) parts
    | _ => pure none

/-- What a name with dots stands for in a table: nothing if a part is empty or lies in no table. -/
def lookupIn (root : Nat) (name : String) : Machine (Option Value) :=
  follow (.table root) (segments name.toList)

/-- The function that a name with dots stands for in a table. -/
def lookupFunctionIn (root : Nat) (name : String) : Machine (Option Function) := do
  match ← lookupIn root name with
  | some (.function f) => pure (some f)
  | _ => pure none

/-- What a name with dots stands for among the global variables. -/
def lookup (name : String) : Machine (Option Value) := lookupIn Vm.globals name

/-- The function that a name with dots stands for among the global variables. -/
def lookupFunction (name : String) : Machine (Option Function) :=
  lookupFunctionIn Vm.globals name

end Script

end EventScripts
