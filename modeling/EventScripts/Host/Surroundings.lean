import EventScripts.Host.Document
import EventScripts.Host.Failure

/-!
# The surroundings of an engine

Everything an engine acts on outside its machine: the attached host, the dialogs that were
shown, the notes scripts asked for, the files, what scripts asked of them, and the log. Effects of a
script come here after its run.
-/

set_option autoImplicit false

namespace EventScripts

open Script

/-- A dialog that showed a failure. -/
structure Dialog where
  failure : Failure
  haveHost : Bool
  deriving DecidableEq

/-- Values that a script gave to be noted, with the origin and the style of the host at that
moment if there was one. -/
structure Note where
  values : List Snapshot
  current : Option (Origin × NoteStyle)

/-- What an engine acts on. -/
structure Surroundings (H : Type := Document) where
  host : Option H
  dialogs : List Dialog
  notes : List Note
  files : FileTree
  /-- The requests of scripts to the files. -/
  asked : List FileRequest
  log : List LogLine
  /-- How many failures were reported. -/
  reported : Nat

namespace Surroundings

variable {H : Type}

/-- Nothing has happened yet. -/
def fresh (host : Option H) : Surroundings H := ⟨host, [], [], .fresh, [], [], 0⟩

/-- Changes the attached host, if there is one. -/
def onHost (s : Surroundings H) (f : H → H) : Surroundings H :=
  { s with host := s.host.map f }

/-- Writes a line to the log. -/
def writeLog (s : Surroundings H) (line : LogLine) : Surroundings H :=
  { s with log := s.log ++ [line] }

variable [Host H]

/-- The origin and the style of the attached host. -/
def current (s : Surroundings H) : Option (Origin × NoteStyle) :=
  s.host.map fun h => (Host.origin h, Host.style h)

/-- Lets an effect of a script happen. -/
def apply (s : Surroundings H) : Effect → Surroundings H
  | .record values => { s with notes := s.notes ++ [⟨values, s.current⟩] }
  | .log line => s.writeLog line
  | e => s.onHost (Host.absorb e)

/-- Lets effects of a script happen, in order. -/
def applyAll (s : Surroundings H) (effects : List Effect) : Surroundings H :=
  effects.foldl apply s

/-- Lets happen what was done in a run: its effects, and its requests, which left other files. -/
def undergo (s : Surroundings H) (vm : Vm) : Surroundings H :=
  { s.applyAll vm.effects with files := vm.files, asked := s.asked ++ vm.asked }

/-- The origin and the style of the host before a run, to be put back after it. -/
structure Saved where
  origin : Origin
  style : NoteStyle

/-- Begins a scope: saves the origin and the style, and makes the style normal. -/
def enter (s : Surroundings H) : Saved × Surroundings H :=
  let saved := match s.host with
    | some h => ⟨Host.origin h, Host.style h⟩
    | none => ⟨.unknown, .normal⟩
  (saved, s.onHost (Host.setStyle .normal))

/-- Gives the run in a scope an origin, unless the current one is to stay. -/
def setOrigin (s : Surroundings H) (o : Origin) : Surroundings H :=
  if o = .dontChange then s else s.onHost (Host.setOrigin o)

/-- Ends a scope: puts the origin and the style back. -/
def leave (s : Surroundings H) (saved : Saved) : Surroundings H :=
  s.onHost fun h => Host.setStyle saved.style (Host.setOrigin saved.origin h)

end Surroundings

end EventScripts
