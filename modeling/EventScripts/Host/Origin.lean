/-!
# Where a script run comes from

The host attributes what a script does (sending, notes) to the origin of the run and writes notes
in the current note style. Scripts can change both through the host's own routines.
-/

set_option autoImplicit false

namespace EventScripts

/-- Where the currently running script was started from. -/
inductive Origin where
  | unknown
  | sandbox
  | userTyping
  | triggerFired
  | aliasFired
  | timerFired
  | pluginCallback
  | hotspot
  /-- Leaves whatever origin is current. -/
  | dontChange
  deriving DecidableEq, Inhabited

namespace Origin

/-- All origins, in the order in which they are declared. -/
def all : List Origin :=
  [.unknown, .sandbox, .userTyping, .triggerFired, .aliasFired, .timerFired, .pluginCallback,
    .hotspot, .dontChange]

/-- The name under which an origin is written. -/
def name : Origin → String
  | .unknown => "unknown"
  | .sandbox => "sandbox"
  | .userTyping => "user_typing"
  | .triggerFired => "trigger_fired"
  | .aliasFired => "alias_fired"
  | .timerFired => "timer_fired"
  | .pluginCallback => "plugin_callback"
  | .hotspot => "hotspot"
  | .dontChange => "dont_change"

/-- The origin written under a name. -/
def ofName? (name : String) : Option Origin :=
  all.find? (·.name == name)

end Origin

/-- Flags of the style in which notes are written, sixteen bits. -/
structure NoteStyle where
  flags : UInt16
  deriving DecidableEq, Inhabited

namespace NoteStyle

/-- No flag set. -/
def normal : NoteStyle := ⟨0⟩

/-- Bold letters. -/
def bold : NoteStyle := ⟨1⟩

/-- A line below the letters. -/
def underline : NoteStyle := ⟨2⟩

/-- Blinking letters. -/
def blink : NoteStyle := ⟨4⟩

/-- The two colours exchanged. -/
def inverse : NoteStyle := ⟨8⟩

end NoteStyle

end EventScripts
