import EventScripts.Host.Document
import EventScripts.Script.Compile
import EventScripts.Script.Invocation

/-!
# The routines of a document

What a document puts into every new machine: the functions through which scripts note values and
change its origin and its note style, and then a script of its own. With these a document is a
host.
-/

set_option autoImplicit false

namespace EventScripts

open Script

/-- The label of the script that a document runs in a new machine. -/
def routinesLabel : String := "Routines"

/-- The routines that a document puts into a machine. -/
def hostRoutines : List (String × HostRoutine) :=
  [("record", .record), ("set_source", .setSource), ("set_style", .setStyle)]

/-- Puts routines into the global variables. -/
def provideRoutines : List (String × HostRoutine) → Machine Unit
  | [] => pure ()
  | (name, r) :: rest => do
    let f ← Machine.newFunction (.native (.host r))
    setGlobal invoke .outside (textBytes name) f
    provideRoutines rest

namespace Document

/-- Registers the routines of a document, and runs what it runs in every new machine. -/
def register (d : Document) : Machine Unit := do
  provideRoutines hostRoutines
  match load (textBytes routinesLabel) d.routines with
  | .error e => throw (.fault (.source e.message false))
  | .ok code =>
    discard (Machine.callValue invoke .outside (← Machine.newFunction (.script code)) [])

/-- What a script does to a document through its routines. -/
def absorb : Effect → Document → Document
  | .origin o, d => { d with origin := o }
  | .style t, d => { d with style := t }
  | _, d => d

end Document

instance : Host Document where
  world := Document.world
  plugin := Document.plugin
  errorsToOutput := Document.errorsToOutput
  logErrors := Document.logErrors
  origin := Document.origin
  style := Document.style
  setOrigin o d := { d with origin := o }
  setStyle t d := { d with style := t }
  trace text d := d.trace text
  note fore back text d := d.note fore back text
  tell _ _ text d := d.tell text
  showErrorLines line d := d.showErrorLines line
  errorLinesText := Document.errorLinesText
  routeErrors toOutput d := d.routeErrors toOutput
  addTime := Document.addTime
  register := Document.register
  absorb := Document.absorb

instance : LawfulHost Document where
  origin_setOrigin _ _ := rfl
  style_setOrigin _ _ := rfl
  style_setStyle _ _ := rfl
  origin_setStyle _ _ := rfl
  origin_trace _ _ := rfl
  style_trace _ _ := rfl
  origin_note _ _ _ _ := rfl
  style_note _ _ _ _ := rfl
  origin_tell _ _ _ _ := rfl
  style_tell _ _ _ _ := rfl
  origin_showErrorLines _ _ := rfl
  style_showErrorLines _ _ := rfl
  origin_routeErrors _ _ := rfl
  style_routeErrors _ _ := rfl
  origin_addTime _ := rfl
  style_addTime _ := rfl

end EventScripts
