/-!
# Styled lines

A line of the output as a list of runs, each with its own colours and style.
-/

set_option autoImplicit false

namespace EventScripts

/-- A colour, `0xRRGGBB`. -/
abbrev Colour := UInt32

/-- A piece of a line in one style. -/
structure StyleRun where
  text : String
  fore : Colour
  back : Colour
  style : UInt16
  deriving DecidableEq

/-- A line of the output. -/
structure StyledLine where
  runs : List StyleRun
  deriving DecidableEq

namespace StyledLine

/-- A line without text. -/
def empty : StyledLine := ⟨[]⟩

/-- The line with a run behind it. -/
def push (line : StyledLine) (run : StyleRun) : StyledLine := ⟨line.runs ++ [run]⟩

/-- The text of the whole line. -/
def text (line : StyledLine) : String := String.join (line.runs.map StyleRun.text)

end StyledLine

end EventScripts
