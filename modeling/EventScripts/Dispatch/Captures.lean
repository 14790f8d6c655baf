import EventScripts.Bytes.Utf8
import EventScripts.Pattern

/-!
# Captures of a match

A snapshot of one match of a pattern: the texts of its groups by number, the whole match first,
and a table of names. The numbers in the table come from the pattern engine and may lie outside
the groups; a name may occur more than once.
-/

set_option autoImplicit false

namespace EventScripts

/-- A name of a group. -/
structure GroupName where
  name : String
  index : Int
  deriving DecidableEq

/-- A snapshot of a match. -/
structure CaptureSet where
  /-- The texts of the groups, `none` for a group that took no part. -/
  groups : List (Option String)
  names : List GroupName
  /-- The pattern was made with repeated names allowed. -/
  duplicateNames : Bool
  deriving DecidableEq

/-- What a pattern engine tells of a match. -/
structure CaptureSource where
  /-- Number of groups, the whole match not counted. -/
  count : Nat
  text : Nat → Option String
  names : List GroupName
  duplicateNames : Bool

namespace CaptureSet

/-- No groups and no names. -/
def empty : CaptureSet := ⟨[], [], false⟩

/-- The snapshot of what a pattern engine tells. -/
def ofSource (source : CaptureSource) : CaptureSet :=
  ⟨(List.range (source.count + 1)).map source.text, source.names, source.duplicateNames⟩

/-- The text of a span; spans of a match begin and end at characters. -/
def spanText (subject : Bytes) (span : Pattern.Span) : String :=
  Bytes.lossy ((subject.drop span.1).take (span.2 - span.1))

/-- The snapshot of the first match of a pattern in a subject. -/
def ofFirstMatch? (p : Pattern) (subject : String) : Option CaptureSet :=
  (p.spans? subject 0).map fun spans =>
    let bytes := textBytes subject
    ofSource {
      count := spans.length - 1
      text := fun i => (spans[i]?.getD none).map (spanText bytes)
      names := p.names.map fun (name, i) => ⟨name, i⟩
      duplicateNames := false }

/-- The highest number of a group. -/
def count (set : CaptureSet) : Nat := set.groups.length - 1

/-- A group by its number: `none` outside the groups, `some none` if it took no part. -/
def group (set : CaptureSet) (index : Int) : Option (Option String) :=
  if index < 0 then none else set.groups[index.toNat]?

end CaptureSet

end EventScripts
