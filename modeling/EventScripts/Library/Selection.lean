import EventScripts.Script.Invocation

/-!
# Which libraries a machine gets

There is a fixed list of libraries, opened in its order. The host may supply an opener for each,
in place of a built-in one or where there is none; the last one it gives for a library counts.
Preloads are opened only when a script requires them.
-/

set_option autoImplicit false

namespace EventScripts

open Script

/-- The libraries that a machine may get. -/
inductive Library where
  | patterns
  | bits
  | compression
  | progress
  | binaryCodec
  | database
  | grammars
  deriving DecidableEq

namespace Library

/-- All libraries in the order in which they are opened. -/
def all : List Library :=
  [.patterns, .bits, .compression, .progress, .binaryCodec, .database, .grammars]

/-- The global variable that a library sets. -/
def globalName : Library → String
  | .patterns => "rex"
  | .bits => "bit"
  | .compression => "utils"
  | .progress => "progress"
  | .binaryCodec => "bc"
  | .database => "sqlite3"
  | .grammars => "lpeg"

/-- The functions of the libraries that every machine gets unless the host decides otherwise. -/
def builtIn : Library → Option (List (String × Native))
  | .patterns => some [("new", .patternNew), ("escape", .patternEscape)]
  | .bits => some [("band", .bit .band), ("bor", .bit .bor), ("bxor", .bit .bxor),
      ("bnot", .bit .bnot), ("shl", .bit .shl), ("shr", .bit .shr), ("ashr", .bit .ashr)]
  | .compression => some [("compress", .compress), ("decompress", .decompress)]
  | .progress => some [("new", .progressNew)]
  | .binaryCodec | .database | .grammars => none

end Library

/-- The module that drives other programs, which is only ever preloaded. -/
def automationBridge : String := "luacom"

/-- What the host supplies: openers for libraries and preloads, each in the order given. -/
structure Selection where
  openers : List (Library × Opener)
  preloads : List (String × Opener)

namespace Selection

/-- Nothing supplied. -/
def none : Selection := ⟨[], []⟩

/-- The selection with an opener for a library. -/
def insert (s : Selection) (library : Library) (opener : Opener) : Selection :=
  { s with openers := s.openers ++ [(library, opener)] }

/-- The selection with a preload. -/
def preload (s : Selection) (name : String) (opener : Opener) : Selection :=
  { s with preloads := s.preloads ++ [(name, opener)] }

/-- The opener given last for a library. -/
def opener? (s : Selection) (library : Library) : Option Opener :=
  (s.openers.reverse.find? (·.1 == library)).map (·.2)

/-- Opens a library: with the opener supplied for it, else as built in, else not at all. -/
def openLibrary (s : Selection) (library : Library) : Machine Unit :=
  match s.opener? library with
  | some opener => openSupplied invoke .outside opener
  | .none => match library.builtIn with
    | some fs => openFunctions invoke .outside library.globalName fs
    | .none => Machine.emit (.log
        (.debug ("[scripting] library '" ++ library.globalName ++ "' not available")))

/-- Opens libraries one after the other, up to the first that fails. -/
def openEach (s : Selection) : List Library → Machine Unit
  | [] => pure ()
  | library :: rest => do
    s.openLibrary library
    openEach s rest

/-- Opens all libraries. -/
def openAll (s : Selection) : Machine Unit := s.openEach Library.all

/-- Puts loaders into the table of preloads. -/
def installEach (preload : Value) : List (String × Opener) → Machine Unit
  | [] => pure ()
  | (name, opener) :: rest => do
    let loader ← Machine.newFunction (.native (.loader (textBytes name) opener))
    Machine.setIndex invoke .outside .none preload (.text name) loader
    installEach preload rest

/-- Installs the preloads. Where there is no table for them, nothing happens. -/
def installPreloads (s : Selection) : Machine Unit := do
  match ← tryCatch (getGlobal invoke .outside (textBytes "package")) fun _ => pure .nil with
  | .table ref =>
    let preload ← Machine.index invoke .outside .none (.table ref) (.text "preload")
    match preload with
    | .table _ => installEach preload s.preloads
    | _ => pure ()
  | _ => pure ()

end Selection

end EventScripts
