import EventScripts.Host.Interface

/-!
# The host document

The host that keeps everything in memory: its console, where errors go, the current origin and
note style, and the source whose lines are shown beside an error.
-/

set_option autoImplicit false

namespace EventScripts

/-- A line of the console. -/
structure ConsoleLine where
  fore : Colour
  back : Colour
  text : String
  deriving DecidableEq

/-- A host document. -/
structure Document where
  world : String
  plugin : Option String
  /-- The lines of the source that can be edited. -/
  source : List String
  errorsToOutput : Bool
  logErrors : Bool
  modified : Bool
  console : List ConsoleLine
  traces : List String
  /-- The lines that were shown for errors. -/
  highlighted : List Nat
  origin : Origin
  style : NoteStyle
  /-- How many runs have been added to the script time. -/
  timed : Nat
  /-- Text told since the last line of the console. -/
  pending : String
  /-- What the document runs in every new machine after it has registered its routines. -/
  routines : List Script.Step

namespace Document

/-- A new document of a world. -/
def new (world : String) : Document where
  world := world
  plugin := none
  source := []
  errorsToOutput := false
  logErrors := false
  modified := false
  console := []
  traces := []
  highlighted := []
  origin := .unknown
  style := .normal
  timed := 0
  pending := ""
  routines := []

/-- Adds a trace. -/
def trace (d : Document) (text : String) : Document := { d with traces := d.traces ++ [text] }

/-- Ends a line of the console: what is pending, and a text. -/
def note (d : Document) (fore back : Colour) (text : String) : Document :=
  { d with console := d.console ++ [⟨fore, back, d.pending ++ text⟩], pending := "" }

/-- Adds a text to the line of the console that is pending. -/
def tell (d : Document) (text : String) : Document := { d with pending := d.pending ++ text }

/-- The lines of the source around a line, each with its number. -/
def contextLines (d : Document) (line : Nat) : List String :=
  let first := max (line - 1) 1
  (List.range' first (line + 2 - first)).filterMap fun n =>
    d.source[n - 1]?.map fun text => toString n ++ ": " ++ text

/-- Shows the lines of the source around a line on the console. -/
def showErrorLines (d : Document) (line : Nat) : Document :=
  { d with
    highlighted := d.highlighted ++ [line]
    console := d.console ++ (d.contextLines line).map fun text => ⟨errorFore, errorBack, text⟩ }

/-- The lines of the source around a line as they are written to a file. -/
def errorLinesText (d : Document) (line : Nat) : String :=
  String.join ((d.contextLines line).map (· ++ "\n"))

/-- Decides where script errors go, which is a change to the document. -/
def routeErrors (d : Document) (toOutput : Bool) : Document :=
  { d with errorsToOutput := toOutput, modified := true }

/-- Adds the time of a run. -/
def addTime (d : Document) : Document := { d with timed := d.timed + 1 }

end Document

end EventScripts
