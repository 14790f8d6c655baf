import EventScripts.Script.Native.Arguments

/-!
# Loading modules

`require` gives the module of a name: the one that was loaded before, else what the first searcher
in `package.searchers` that has a loader for the name loads. The searchers of script files and of
native modules tell where they have looked. What they find cannot be loaded here.
-/

set_option autoImplicit false

namespace EventScripts

namespace Script

/-- The path along which script files are searched in a new machine. -/
def scriptPath : String :=
  "/usr/local/share/lua/5.4/?.lua;/usr/local/share/lua/5.4/?/init.lua;"
    ++ "/usr/local/lib/lua/5.4/?.lua;/usr/local/lib/lua/5.4/?/init.lua;./?.lua;./?/init.lua"

/-- The path along which native modules are searched in a new machine. -/
def nativePath : String :=
  "/usr/local/lib/lua/5.4/?.so;/usr/local/lib/lua/5.4/loadall.so;./?.so"

/-- Byte strings with a separator between them. -/
def joined (separator : Bytes) (parts : List Bytes) : Bytes :=
  (parts.intersperse separator).flatten

/-- The files that a path names for a module. -/
def namedFiles (path name : Bytes) : List Bytes :=
  let file := name.map fun b => if b == 0x2E then 0x2F else b
  Bytes.partsAt 0x3B (path.flatMap fun b => if b == 0x3F then file else [b])

/-- What a searcher says that has looked for files. -/
def searchedFiles (files : List Bytes) : Bytes :=
  joined (textBytes "\n\t") (files.map fun file =>
    textBytes "no file '" ++ file ++ textBytes "'")

/-- The first of some files that can be opened. -/
def firstFile : List Bytes → Machine (Option Bytes)
  | [] => pure none
  | file :: rest => do
    match ← Machine.ask (.opening .read file.untilNul) with
    | .opened _ => pure (some file)
    | _ => firstFile rest

/-- Looks for files along the path in a field of `package`. A file that is there cannot be loaded.
-/
def searchFiles (call : Caller) (site : Site) (field : String) (name : Bytes) :
    Machine (List Value) := do
  let path ← match ← Machine.index call site none (.table Vm.package) (.text field) with
    | .string path => pure path
    | .number n => pure n.bytes
    | _ => site.fail (textBytes ("'package." ++ field ++ "' must be a string"))
  match ← firstFile (namedFiles path name) with
  | none => pure [.string (searchedFiles (namedFiles path name))]
  | some file => site.fail (textBytes "loading '" ++ file ++ textBytes "' is not available")

/-- Looks for a loader under `package.preload`. -/
def preloadedLoader (name : Bytes) : Machine (List Value) := do
  match ← Machine.rawGet Vm.preload (.string name) with
  | .nil => pure [.string (textBytes "no field package.preload['" ++ name ++ textBytes "']")]
  | loader => pure [loader, .text ":preload:"]

/-- The loader that the first of the searchers from `i` on finds, with its second argument. The
first argument bounds the number of searchers. -/
def findLoader (call : Caller) (site : Site) (searchers : Nat) (name : Bytes) :
    Nat → Nat → List Bytes → Machine (Function × Value)
  | 0, _, said => notFound said
  | fuel + 1, i, said => do
    match ← Machine.rawGet searchers (.integer (Int64.ofNat i)) with
    | .nil => notFound said
    | searcher =>
      let results ← Machine.callValue call site.inner searcher [.string name]
      match Value.head results with
      | .function f => pure (f, Value.head results.tail)
      | v =>
        findLoader call site searchers name fuel (i + 1) (said ++ (Machine.rawText? v).toList)
where
  /-- No searcher has found a loader. -/
  notFound (said : List Bytes) : Machine (Function × Value) :=
    site.fail (textBytes "module '" ++ name ++ textBytes "' not found:"
      ++ said.flatMap fun s => textBytes "\n\t" ++ s)

/-- Gives the module of a name, loading it if it has not been loaded. -/
def requireModule (call : Caller) (site : Site) (args : List Value) : Machine (List Value) := do
  let name ← textArgument site "require" 1 args
  let known ← Machine.rawGet Vm.loaded (.string name)
  if known.truthy then pure [known]
  else
    match ← Machine.index call site none (.table Vm.package) (.text "searchers") with
    | .table searchers =>
      let count := ((← get).table searchers).entries.length
      let (loader, extra) ← findLoader call site searchers name (count + 1) 1 []
      let results ← call site.inner loader [.string name, extra]
      match Value.head results with
      | .nil => pure ()
      | v => Machine.rawSet Vm.loaded (.string name) v
      match ← Machine.rawGet Vm.loaded (.string name) with
      | .nil =>
        Machine.rawSet Vm.loaded (.string name) (.boolean true)
        pure [.boolean true, extra]
      | v => pure [v, extra]
    | _ => site.fail (textBytes "'package.searchers' must be a table")

end Script

end EventScripts
