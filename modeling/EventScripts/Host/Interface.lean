import EventScripts.Dispatch.StyledLine
import EventScripts.Host.Origin
import EventScripts.Script.Machine

/-!
# What an engine needs from its host

An engine knows the document on whose behalf scripts run only through these operations. `Document`
is the host that keeps everything in memory; any other type with the same operations will do.
-/

set_option autoImplicit false

namespace EventScripts

open Script

/-- The colour in which script errors are written. -/
def errorFore : Colour := 0xFF8C00

/-- The colour behind script errors. -/
def errorBack : Colour := 0x000000

/-- A type of host documents. -/
class Host (H : Type) where
  world : H → String
  /-- The plugin whose script is running, if any. -/
  plugin : H → Option String
  /-- Whether script errors go to the console. -/
  errorsToOutput : H → Bool
  /-- Whether script errors are appended to a file. -/
  logErrors : H → Bool
  origin : H → Origin
  style : H → NoteStyle
  setOrigin : Origin → H → H
  setStyle : NoteStyle → H → H
  /-- Adds a trace. -/
  trace : String → H → H
  /-- Ends a line of the console with a text. -/
  note : Colour → Colour → String → H → H
  /-- Adds a text to the line of the console that is pending. -/
  tell : Colour → Colour → String → H → H
  /-- Shows the lines of the source around a line on the console. -/
  showErrorLines : Nat → H → H
  /-- The lines of the source around a line as they are written to a file. -/
  errorLinesText : H → Nat → String
  /-- Decides where script errors go. -/
  routeErrors : Bool → H → H
  /-- Adds the time of a run. -/
  addTime : H → H
  /-- Registers the routines that the host has for scripts. -/
  register : H → Machine Unit
  /-- What a script does to the host through such a routine. -/
  absorb : Effect → H → H

/-- A host whose origin and note style change only where they are set, or where a script asks for
it. -/
class LawfulHost (H : Type) [Host H] : Prop where
  origin_setOrigin : ∀ (o : Origin) (h : H), Host.origin (Host.setOrigin o h) = o
  style_setOrigin : ∀ (o : Origin) (h : H), Host.style (Host.setOrigin o h) = Host.style h
  style_setStyle : ∀ (t : NoteStyle) (h : H), Host.style (Host.setStyle t h) = t
  origin_setStyle : ∀ (t : NoteStyle) (h : H), Host.origin (Host.setStyle t h) = Host.origin h
  origin_trace : ∀ (text : String) (h : H), Host.origin (Host.trace text h) = Host.origin h
  style_trace : ∀ (text : String) (h : H), Host.style (Host.trace text h) = Host.style h
  origin_note : ∀ (fore back : Colour) (text : String) (h : H),
    Host.origin (Host.note fore back text h) = Host.origin h
  style_note : ∀ (fore back : Colour) (text : String) (h : H),
    Host.style (Host.note fore back text h) = Host.style h
  origin_tell : ∀ (fore back : Colour) (text : String) (h : H),
    Host.origin (Host.tell fore back text h) = Host.origin h
  style_tell : ∀ (fore back : Colour) (text : String) (h : H),
    Host.style (Host.tell fore back text h) = Host.style h
  origin_showErrorLines : ∀ (line : Nat) (h : H),
    Host.origin (Host.showErrorLines line h) = Host.origin h
  style_showErrorLines : ∀ (line : Nat) (h : H),
    Host.style (Host.showErrorLines line h) = Host.style h
  origin_routeErrors : ∀ (toOutput : Bool) (h : H),
    Host.origin (Host.routeErrors toOutput h) = Host.origin h
  style_routeErrors : ∀ (toOutput : Bool) (h : H),
    Host.style (Host.routeErrors toOutput h) = Host.style h
  origin_addTime : ∀ h : H, Host.origin (Host.addTime h) = Host.origin h
  style_addTime : ∀ h : H, Host.style (Host.addTime h) = Host.style h

end EventScripts
