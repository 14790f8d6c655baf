import EventScripts.Script.Machine
import EventScripts.Text.Order

/-!
# Names for completion

The names of the functions in well-known tables and the keys of tables of flags, for completion
and help. An index is filled once, from the first machine that opens, and stays as it is from then
on.
-/

set_option autoImplicit false

namespace EventScripts

open Script

/-- Inserts a name into ascending names, unless it is there. -/
def insertName (name : String) : List String → List String
  | [] => [name]
  | n :: ns =>
    if n == name then n :: ns
    else if textLe name n then name :: n :: ns
    else n :: insertName name ns

/-- The names that an index offers, each kind ascending and without repeats. -/
structure Names where
  functions : List String
  entries : List String
  deriving DecidableEq

namespace Names

/-- Tables whose functions are offered. Those of the globals are offered without the table. -/
def functionTables : List String :=
  ["_G", "string", "package", "os", "io", "bc", "progress", "bit", "rex", "utils", "table", "math",
    "debug", "coroutine", "lpeg", "sqlite3"]

/-- Tables whose keys are offered. -/
def flagTables : List String :=
  ["trigger_flag", "alias_flag", "timer_flag", "custom_colour", "error_code", "sendto", "miniwin"]

/-- A function that is never offered. -/
def hiddenFunction : String := "newproxy"

/-- The name that a key is, if it is a text or a number. -/
def keyName? : Key → Option String
  | .string s => some s.lossy
  | .integer i => some (String.ofList (Number.integerText i.toInt))
  | .double bits => some (String.ofList (Binary64.plainText (Float.ofBits bits)))
  | _ => none

/-- The entries of the table that is the value of a global variable, none if there is no table. -/
def tableEntries (vm : Vm) (name : String) : List (Key × Value) :=
  match (vm.table Vm.globals).get (.text name) with
  | .table ref => (vm.table ref).entries
  | _ => []

/-- Whether a value is a function. -/
def isFunction : Value → Bool
  | .function _ => true
  | _ => false

/-- The name under which an entry of a table is offered as a function. -/
def functionName? (table : String) (entry : Key × Value) : Option String :=
  if !isFunction entry.2 then none
  else (keyName? entry.1).bind fun name =>
    if name.toList.head? == some '_' then none
    else if table == "_G" then some name
    else some (table ++ "." ++ name)

/-- The name under which an entry of a table of flags is offered. -/
def entryName? (table : String) (entry : Key × Value) : Option String :=
  (keyName? entry.1).map fun name => table ++ "." ++ name

/-- The names that a table gives are put among those there. -/
def gather (vm : Vm) (nameOf : String → Key × Value → Option String) (tables : List String) :
    List String :=
  (tables.flatMap fun table => (tableEntries vm table).filterMap (nameOf table)).foldl
    (fun names name => insertName name names) []

/-- The names that a machine gives. -/
def ofMachine (vm : Vm) : Names where
  functions := (gather vm functionName? functionTables).filter (· != hiddenFunction)
  entries := gather vm entryName? flagTables

/-- The line of the log that tells how many names there are. -/
def line (names : Names) : LogLine :=
  .debug ("[scripting] name registry: "
    ++ String.ofList (Binary64.digits names.functions.length) ++ " functions, "
    ++ String.ofList (Binary64.digits names.entries.length) ++ " table entries")

/-- Among ascending names, those that start with a text. -/
def startingWith (start : String) (names : List String) : List String :=
  (names.dropWhile fun n => !textLe start n).takeWhile fun n =>
    start.toList.isPrefixOf n.toList

end Names

/-- An index of names, empty until it is filled. -/
structure NameIndex where
  names : Option Names
  deriving DecidableEq

namespace NameIndex

/-- An index that has not been filled. -/
def empty : NameIndex := ⟨none⟩

/-- Whether the index has been filled. -/
def isPopulated (index : NameIndex) : Bool := index.names.isSome

/-- The functions offered. -/
def functions (index : NameIndex) : List String := (index.names.map Names.functions).getD []

/-- The table entries offered. -/
def entries (index : NameIndex) : List String := (index.names.map Names.entries).getD []

/-- Fills the index from a machine unless it has been filled: the index, and whether this call
filled it. -/
def populate (index : NameIndex) (vm : Vm) : NameIndex × Bool :=
  match index.names with
  | some _ => (index, false)
  | none => (⟨some (.ofMachine vm)⟩, true)

/-- The functions and then the table entries that start with a text. -/
def complete (index : NameIndex) (start : String) : List String :=
  Names.startingWith start index.functions ++ Names.startingWith start index.entries

end NameIndex

end EventScripts
