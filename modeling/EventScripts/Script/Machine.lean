import EventScripts.Files.Request
import EventScripts.Library.Progress
import EventScripts.Pattern
import EventScripts.Script.Snapshot
import EventScripts.Script.Value

/-!
# The machine

A machine holds the tables and native objects that scripts have made, and a journal of what they
did to the world outside. Nothing outside is changed while a script runs: the journal is read when
the run is over.

The files are what a script can see of the world outside. A computation never has them in hand. It
goes on until it ends, with a result or an error value, or until it has a request to the files, and
then the answer alone decides how it goes on. So what a run comes to is a function of the machine,
the code and the arguments, and of the answers to its requests.
-/

set_option autoImplicit false

namespace EventScripts

namespace Script

/-- A table: its entries, none of which is nil, the number of slots it was made with for the keys
from one on, and its metatable. -/
structure Table where
  entries : List (Key × Value)
  slots : Nat
  metatable : Option Nat

namespace Table

/-- A table without entries. -/
def empty : Table := ⟨[], 0, none⟩

/-- A table of entries. -/
def ofEntries (entries : List (Key × Value)) : Table := ⟨entries, 0, none⟩

/-- The value under a key, nil when there is none. -/
def get (t : Table) (k : Key) : Value :=
  match t.entries.find? (·.1 == k) with
  | some (_, v) => v
  | none => .nil

/-- Puts a value under a key: in place of the one there, else as the last entry. -/
def put (k : Key) (v : Value) : List (Key × Value) → List (Key × Value)
  | [] => [(k, v)]
  | (l, w) :: rest => if l == k then (k, v) :: rest else (l, w) :: put k v rest

/-- The table with a value set; nil removes the entry. -/
def set (t : Table) (k : Key) (v : Value) : Table :=
  match v with
  | .nil => { t with entries := t.entries.filter (·.1 != k) }
  | v => { t with entries := put k v t.entries }

/-- Whether there is an entry under a whole number. -/
def has (t : Table) (i : Nat) : Bool :=
  t.entries.any (·.1 == .integer (Int64.ofNat i))

/-- Searches for a border between `i`, which is present or zero, and `j`, which is absent. The
first argument bounds the halvings. -/
def borderBetween (t : Table) : Nat → Nat → Nat → Nat
  | 0, i, _ => i
  | fuel + 1, i, j =>
    if j ≤ i + 1 then i
    else
      let m := (i + j) / 2
      if t.has m then borderBetween t fuel m j else borderBetween t fuel i m

/-- Doubles `j` until it is absent, and searches from the last one present. -/
def borderAbove (t : Table) : Nat → Nat → Nat
  | 0, i => i
  | fuel + 1, i =>
    if t.has (2 * i) then borderAbove t fuel (2 * i) else t.borderBetween 64 i (2 * i)

/-- The length of a table: a number that is present or zero and whose successor is absent. -/
def length (t : Table) : Nat :=
  if t.slots > 0 && !t.has t.slots then
    if t.has (t.slots - 1) then t.slots - 1 else t.borderBetween 64 0 t.slots
  else if !t.has (t.slots + 1) then t.slots
  else t.borderAbove 64 (max t.slots 1)

end Table

/-- A file that a script has opened. -/
structure OpenFile where
  target : FileTarget
  /-- The place of the next byte that is read or written. -/
  place : Nat
  reads : Bool
  writes : Bool
  /-- Whatever is written goes to the end. -/
  appends : Bool
  closed : Bool

/-- A native object. -/
inductive Object where
  | pattern (p : Pattern)
  | progress (p : Progress)
  | file (f : OpenFile)
  /-- A standard stream, of which only the presence matters. -/
  | stream

/-- What a script did to the world outside, apart from its files. -/
inductive Effect where
  /-- Gave values to be noted. -/
  | record (args : List Snapshot)
  /-- Changed the current origin. -/
  | origin (o : Origin)
  /-- Changed the current note style. -/
  | style (s : NoteStyle)
  /-- Wrote a line to the log. -/
  | log (line : LogLine)

/-- What a machine holds. The journal has the last effect first. -/
structure Store where
  tables : Array Table
  objects : Array Object
  /-- The number the next function or thread gets. -/
  nextId : Nat
  journal : List Effect

/-- A machine in a run: what it holds, the files around it, and the requests to them in the order in
which they were made. -/
structure Vm extends Store where
  files : FileTree
  asked : List FileRequest

/-- How a computation goes on: it ends with a result or an error value and leaves what the machine
holds, or it has a request, and the answer decides the rest. -/
inductive Course (α : Type) where
  | ended (result : Except Value α) (store : Store)
  | asking (q : FileRequest) (next : FileAnswer → Course α)

namespace Course

variable {α β : Type}

/-- Goes on after the end of a computation. -/
def andThen (next : Except Value α → Store → Course β) : Course α → Course β
  | ended result store => next result store
  | asking q rest => asking q fun answer => (rest answer).andThen next

/-- Goes on to the end among files, after requests that were made before: the result or error value,
and the machine that is left. -/
def finish (files : FileTree) (asked : List FileRequest) : Course α → Except Value α × Vm
  | ended result store => (result, { store with files, asked })
  | asking q rest => (rest (files.serve q).1).finish (files.serve q).2 (asked ++ [q])

end Course

/-- A computation of the machine. -/
def Machine (α : Type) : Type := Store → Course α

namespace Vm

/-- The table of the global variables. -/
def globals : Nat := 0

/-- The table of the modules that `require` has loaded. -/
def loaded : Nat := 1

/-- The table of the loaders that `require` asks first. -/
def preload : Nat := 2

/-- The table `package`, in which `require` looks for its searchers. -/
def package : Nat := 3

/-- The metatable of all strings. -/
def stringMeta : Nat := 4

end Vm

namespace Store

/-- A table by its number. -/
def table (store : Store) (ref : Nat) : Table := store.tables[ref]?.getD .empty

/-- The effects in order. -/
def effects (store : Store) : List Effect := store.journal.reverse

/-- What the machine holds, with an empty journal. -/
def settled (store : Store) : Store := { store with journal := [] }

/-- Place of a key among the rows of a snapshot: by kind, then in the order of the kind. -/
def keyLe : Snapshot → Snapshot → Bool
  | .number (.integer i), .number (.integer j) => i ≤ j
  | .number (.integer _), _ => true
  | _, .number (.integer _) => false
  | .number (.double x), .number (.double y) => x ≤ y
  | .number (.double _), _ => true
  | _, .number (.double _) => false
  | .string s, .string t => Bytes.le s t
  | .string _, _ => true
  | _, .string _ => false
  | .boolean a, .boolean b => !a || b
  | .boolean _, _ => true
  | _, .boolean _ => false
  | _, _ => true

/-- What can be seen of a key. -/
def keySnapshot : Key → Snapshot
  | .boolean b => .boolean b
  | .integer i => .number (.integer i)
  | .double bits => .number (.double (Float.ofBits bits))
  | .string s => .string s
  | .table _ => .other "table"
  | .function _ => .function
  | .thread _ => .other "thread"
  | .object _ => .other "userdata"
  | .fault _ => .other "error"

/-- What can be seen of a value. The first argument bounds how deep tables are copied. -/
def snapshotTo (store : Store) : Nat → Value → Snapshot
  | _, .nil => .nil
  | _, .boolean b => .boolean b
  | _, .number n => .number n
  | _, .string s => .string s
  | _, .function _ => .function
  | _, .thread _ => .other "thread"
  | _, .object _ => .other "userdata"
  | _, .fault _ => .other "error"
  | 0, .table _ => .other "table"
  | depth + 1, .table ref =>
    .table (((store.table ref).entries.map fun (k, v) =>
      (keySnapshot k, snapshotTo store depth v)).mergeSort fun a b => keyLe a.1 b.1)

/-- How deep tables are copied: further only where they contain themselves. -/
def snapshotDepth : Nat := 64

/-- What can be seen of a value. -/
def snapshot (store : Store) (v : Value) : Snapshot := store.snapshotTo snapshotDepth v

end Store

namespace Vm

/-- The machine at the beginning of a run among files. -/
def among (vm : Vm) (files : FileTree) : Vm := { vm.toStore.settled with files, asked := [] }

/-- The machine between runs, when it has no files. -/
def settled (vm : Vm) : Vm := vm.among .fresh

end Vm

namespace Machine

variable {α β : Type}

/-- Gives a result. -/
def result (a : α) : Machine α := fun store => .ended (.ok a) store

/-- Ends with an error value. -/
def raise (e : Value) : Machine α := fun store => .ended (.error e) store

/-- Goes on with the result, unless there is an error. -/
def andThen (m : Machine α) (next : α → Machine β) : Machine β := fun store =>
  (m store).andThen fun
    | .ok a => next a
    | .error e => raise e

/-- Goes on with the error value if there is one. -/
def orElse (m : Machine α) (handle : Value → Machine α) : Machine α := fun store =>
  (m store).andThen fun
    | .ok a => result a
    | .error e => handle e

instance : Monad Machine where
  pure := result
  bind := andThen

instance : MonadExceptOf Value Machine where
  throw := raise
  tryCatch := orElse

instance : MonadStateOf Store Machine where
  get store := .ended (.ok store) store
  set store := fun _ => .ended (.ok ()) store
  modifyGet f store := .ended (.ok (f store).1) (f store).2

/-- Makes a request to the files. -/
def ask (q : FileRequest) : Machine FileAnswer := fun store =>
  .asking q fun answer => .ended (.ok answer) store

/-- Runs a computation: its result or error value, and the machine it leaves. -/
def run (m : Machine α) (vm : Vm) : Except Value α × Vm := (m vm.toStore).finish vm.files vm.asked

/-- The value under a key of a table, its metatable not asked. -/
def rawGet (ref : Nat) (k : Key) : Machine Value :=
  return (← get).table ref |>.get k

/-- Changes a table. -/
def changeTable (ref : Nat) (f : Table → Table) : Machine Unit :=
  modify fun store => { store with tables := store.tables.modify ref f }

/-- Sets a value under a key of a table, its metatable not asked. -/
def rawSet (ref : Nat) (k : Key) (v : Value) : Machine Unit :=
  changeTable ref (·.set k v)

/-- Sets a global variable, the metatable of the globals not asked. -/
def rawSetGlobal (name : String) (v : Value) : Machine Unit :=
  rawSet Vm.globals (.text name) v

/-- A new table. -/
def newTable (t : Table) : Machine Value :=
  modifyGet fun store =>
    (.table store.tables.size, { store with tables := store.tables.push t })

/-- A new native object. -/
def newObject (o : Object) : Machine Value :=
  modifyGet fun store =>
    (.object store.objects.size, { store with objects := store.objects.push o })

/-- A new function. -/
def newFunction (body : FunctionBody) : Machine Value :=
  modifyGet fun store =>
    (.function ⟨store.nextId, body⟩, { store with nextId := store.nextId + 1 })

/-- A new thread. -/
def newThread : Machine Value :=
  modifyGet fun store => (.thread store.nextId, { store with nextId := store.nextId + 1 })

/-- Notes an effect. -/
def emit (e : Effect) : Machine Unit :=
  modify fun store => { store with journal := e :: store.journal }

/-- What a computation ends with, as a value. -/
def outcome (m : Machine α) : Machine (Except Value α) :=
  tryCatch (Except.ok <$> m) fun e => pure (.error e)

end Machine

end Script

end EventScripts
