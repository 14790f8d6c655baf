import EventScripts.Host.Reporter
import EventScripts.Library.Selection
import EventScripts.Script.Invoker
import EventScripts.Script.NameIndex
import EventScripts.ScriptError
import EventScripts.Settings

/-!
# Sessions of an engine

An engine owns at most one machine at a time. A session is an engine together with what it acts
on: the index of names, which it may share with other engines, and its surroundings. Operations
are computations on a session.
-/

set_option autoImplicit false

namespace EventScripts

open Script

/-- What an engine counts. -/
structure Stats where
  /-- Calls that entered the machine. -/
  protectedCalls : Nat
  runtimeErrors : Nat
  compileErrors : Nat
  resolutionFailures : Nat
  /-- Dispatches that a broken token cut short. -/
  skipped : Nat
  deriving DecidableEq

namespace Stats

/-- Nothing has been counted. -/
def zero : Stats := ⟨0, 0, 0, 0, 0⟩

end Stats

/-- A machine that has been opened, with the functions for protected calls taken then. -/
structure Live where
  vm : Vm
  invoker : Invoker

/-- An engine. -/
structure Engine where
  live : Option Live
  settings : Settings (List Step)
  selection : Selection
  reporter : Reporter
  stats : Stats
  /-- How many machines have been opened. -/
  generation : Nat

namespace Engine

/-- A closed engine. -/
def new (settings : Settings (List Step)) (selection : Selection) (presenter : Presenter)
    (clock : Clock) : Engine where
  live := none
  settings := settings
  selection := selection
  reporter := ⟨presenter, settings.logPath, clock⟩
  stats := .zero
  generation := 0

/-- Whether there is a machine. -/
def isOpen (e : Engine) : Bool := e.live.isSome

end Engine

/-- An engine with what it acts on, for hosts of one type. -/
structure Session (H : Type := Document) where
  engine : Engine
  index : NameIndex
  around : Surroundings H

/-- A computation on a session with hosts of one type. -/
abbrev OperationOn (H : Type) := StateM (Session H)

/-- A computation on a session with documents. -/
abbrev Operation := OperationOn Document

namespace Session

/-- A session before its first operation. -/
def new {H : Type} (engine : Engine) (host : Option H) : Session H :=
  ⟨engine, .empty, .fresh host⟩

end Session

namespace Operation

variable {H : Type}

/-- Changes the engine. -/
def onEngine (f : Engine → Engine) : OperationOn H Unit :=
  modify fun s => { s with engine := f s.engine }

/-- Changes the surroundings. -/
def onAround (f : Surroundings H → Surroundings H) : OperationOn H Unit :=
  modify fun s => { s with around := f s.around }

/-- Changes the counts. -/
def count (f : Stats → Stats) : OperationOn H Unit :=
  onEngine fun e => { e with stats := f e.stats }

/-- Writes a line to the log. -/
def writeLog (line : LogLine) : OperationOn H Unit := onAround (·.writeLog line)

variable [Host H]

/-- Runs a computation on a machine among the files and lets happen what it does. -/
def runOn {α : Type} (vm : Vm) (m : Machine α) : OperationOn H (Except Value α × Vm) := do
  let (result, vm) := m.run (vm.among (← get).around.files)
  onAround (·.undergo vm)
  pure (result, vm.settled)

/-- Reports a failure. -/
def report (event : String) (context : Option CallContext) (description : String) :
    OperationOn H Unit :=
  modify fun s =>
    { s with around := (s.engine.reporter.report event context description s.around).2 }

/-- Runs an operation in a scope: the origin and the style of the host are put back after it. -/
def inScope {α : Type} (op : OperationOn H α) : OperationOn H α := do
  let (saved, around) := (← get).around.enter
  modify fun s => { s with around }
  let a ← op
  onAround (·.leave saved)
  pure a

end Operation

end EventScripts
