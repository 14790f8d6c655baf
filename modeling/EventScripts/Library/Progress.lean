import EventScripts.Log
import EventScripts.Number.Numeral

/-!
# Progress indicators

An indicator for long jobs, shown as lines of the log. A script chooses the bounds, the position
and the step freely among the 64-bit integers, so the share that is done is computed without
bounds on the intermediate values and then cut to the range from 0 to 100.
-/

set_option autoImplicit false

namespace EventScripts

/-- A progress indicator. -/
structure Progress where
  title : String
  low : Int64
  high : Int64
  position : Int64
  step : Int64
  status : String
  closed : Bool
  deriving DecidableEq

namespace Progress

/-- The title of an indicator that was given none. -/
def defaultTitle : String := "Progress..."

/-- A new indicator. -/
def fresh (title : Option String) : Progress :=
  ⟨title.getD defaultTitle, 0, 100, 0, 10, "", false⟩

/-- The share that is done, in whole per cent: rounded toward zero, then cut to 0 up to 100. -/
def percent (p : Progress) : Int :=
  let span := max (p.high.toInt - p.low.toInt) 1
  let share := ((p.position.toInt - p.low.toInt) * 100).tdiv span
  max 0 (min share 100)

/-- The line that shows the indicator. -/
def line (p : Progress) : LogLine :=
  .debug ("[progress] " ++ p.title ++ ": " ++ String.ofList (Number.integerText p.percent) ++ "% "
    ++ p.status)

/-- The line that tells of the end of the indicator. -/
def closedLine (p : Progress) : LogLine :=
  .debug ("[progress] " ++ p.title ++ " closed")

/-- New bounds; the position moves between them. -/
def setRange (p : Progress) (low high : Int64) : Progress :=
  { p with low, high, position := max (min low high) (min p.position (max high low)) }

/-- A new position, anywhere. -/
def setPosition (p : Progress) (position : Int64) : Progress := { p with position }

/-- A new step. -/
def setStep (p : Progress) (step : Int64) : Progress := { p with step }

/-- An integer cut to 64 bits. -/
def clampInteger (i : Int) : Int64 :=
  Int64.ofInt (max Int64.minValue.toInt (min i Int64.maxValue.toInt))

/-- One step further, but not past the ends of the integers. -/
def advance (p : Progress) : Progress :=
  { p with position := clampInteger (p.position.toInt + p.step.toInt) }

/-- A new status text. -/
def setStatus (p : Progress) (status : String) : Progress := { p with status }

end Progress

end EventScripts
