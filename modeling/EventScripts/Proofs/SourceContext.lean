import EventScripts.Host.Routines
import EventScripts.Proofs.PayloadReadback
import EventScripts.Proofs.ProgressArithmetic
import Mathlib.Data.List.Sort

/-!
# The lines around a line

Beside an error the lines of the source are shown that are at most one away from the blamed line.
The blamed line may be zero, or far behind the end of the source; it has 32 bits, and the numbers of
the lines are computed with 64. `Document.contextLines?` is the computation that stops where such a
number would be negative or too large. It never stops, and gives what `Document.contextLines` gives.

The console and the error log take their lines from there, so they show the same.
-/

set_option autoImplicit false

namespace EventScripts

namespace Document

/-- A line of the source by its number, with the number in front; nothing where the source has no
such line. -/
def numberedLine (d : Document) (n : Nat) : Option String :=
  d.source[n - 1]?.map fun text => toString n ++ ": " ++ text

/-- The same, in arithmetic that stops. -/
def numberedLine? (d : Document) (n : Nat) : Option (Option String) := do
  let place ← Checked.natural? 64 (n - 1)
  return d.source[place]?.map fun text => toString n ++ ": " ++ text

/-- The lines of the source around a line, in arithmetic that stops. Only the line in front is cut
at zero. -/
def contextLines? (d : Document) (line : UInt32) : Option (List String) := do
  let before ← Checked.natural? 64 (max 0 ((line.toNat : Int) - 1))
  let first := max before 1
  let last ← Checked.natural? 64 (line.toNat + 1)
  let lines ← (List.range' first (last + 1 - first)).mapM d.numberedLine?
  return lines.filterMap id

/-- The place of a numbered line is computed without an overflow. -/
theorem numberedLine?_eq_some (d : Document) {n : Nat} (hpos : 1 ≤ n) (hn : n < 2 ^ 64) :
    d.numberedLine? n = some (d.numberedLine n) := by
  have hplace : Checked.natural? 64 ((n : Int) - 1) = some (n - 1) :=
    Checked.natural?_eq_some (by omega) (by omega)
  unfold numberedLine?
  rw [hplace]
  rfl

/-- So are the places of any such lines. -/
theorem mapM_numberedLine? (d : Document) {numbers : List Nat}
    (h : ∀ n ∈ numbers, 1 ≤ n ∧ n < 2 ^ 64) :
    numbers.mapM d.numberedLine? = some (numbers.map d.numberedLine) :=
  mapM_of_forall₂ <| List.forall₂_same.mpr fun n hn =>
    d.numberedLine?_eq_some (h n hn).1 (h n hn).2

/-- The lines around a line are computed without an overflow. -/
theorem contextLines?_eq_some (d : Document) (line : UInt32) :
    d.contextLines? line = some (d.contextLines line.toNat) := by
  have hline := line.toNat_lt
  have hbefore : Checked.natural? 64 (max 0 ((line.toNat : Int) - 1)) = some (line.toNat - 1) :=
    Checked.natural?_eq_some (by omega) (by omega)
  have hlast : Checked.natural? 64 ((line.toNat : Int) + 1) = some (line.toNat + 1) :=
    Checked.natural?_eq_some (by omega) (by omega)
  have hin : ∀ n ∈ List.range' (max (line.toNat - 1) 1)
      (line.toNat + 1 + 1 - max (line.toNat - 1) 1), 1 ≤ n ∧ n < 2 ^ 64 := by
    intro n hn
    rw [List.mem_range'_1] at hn
    omega
  unfold contextLines?
  simp only [hbefore, hlast, d.mapM_numberedLine? hin, Option.bind_eq_bind, Option.bind_some,
    Option.pure_def, List.filterMap_map, Function.id_comp]
  rfl

/-! ## Which lines they are -/

/-- The lines of the source that are at most one away from a line, with their numbers and in
order. -/
structure IsContext (d : Document) (line : Nat) (lines : List (Nat × String)) : Prop where
  mem_iff : ∀ k text, (k, text) ∈ lines ↔
    1 ≤ k ∧ k ≤ d.source.length ∧ ((k : Int) - line).natAbs ≤ 1 ∧ d.source[k - 1]? = some text
  ascending : lines.Pairwise fun l m => l.1 < m.1

/-- How a line is shown. -/
def lineText (l : Nat × String) : String := toString l.1 ++ ": " ++ l.2

/-- There are no two contexts of a line. -/
theorem IsContext.unique {d : Document} {line : Nat} {lines lines' : List (Nat × String)}
    (h : d.IsContext line lines) (h' : d.IsContext line lines') : lines = lines' := by
  have hirrefl : Std.Irrefl fun l m : Nat × String => l.1 < m.1 := ⟨fun l => Nat.lt_irrefl l.1⟩
  have hasymm : Std.Antisymm fun l m : Nat × String => l.1 < m.1 :=
    ⟨fun l m hlt hgt => absurd hlt (Nat.lt_asymm hgt)⟩
  refine h.ascending.eq_of_mem_iff h'.ascending fun l => ?_
  rw [h.mem_iff, h'.mem_iff]

/-- What is shown around a line is the context of the line. -/
theorem exists_context (d : Document) (line : Nat) :
    ∃ lines, d.IsContext line lines ∧ d.contextLines line = lines.map lineText := by
  let first := max (line - 1) 1
  let numbers := List.range' first (line + 2 - first)
  refine ⟨numbers.filterMap fun n => d.source[n - 1]?.map (n, ·), ⟨fun k text => ?_, ?_⟩, ?_⟩
  · have hnear : k ∈ numbers ↔ 1 ≤ k ∧ ((k : Int) - line).natAbs ≤ 1 := by
      rw [List.mem_range'_1]
      omega
    have hin : d.source[k - 1]? = some text → k ≤ d.source.length := by
      intro htext
      have hlt := (List.getElem?_eq_some_iff.mp htext).1
      omega
    rw [List.mem_filterMap]
    constructor
    · rintro ⟨n, hn, hline⟩
      obtain ⟨text', htext, heq⟩ := Option.map_eq_some_iff.mp hline
      cases heq
      exact ⟨(hnear.mp hn).1, hin htext, (hnear.mp hn).2, htext⟩
    · rintro ⟨hpos, -, hclose, htext⟩
      exact ⟨k, hnear.mpr ⟨hpos, hclose⟩, by rw [htext, Option.map_some]⟩
  · refine List.Pairwise.filterMap _ ?_ List.pairwise_lt_range'
    intro n m hlt l hl l' hl'
    obtain ⟨_, -, rfl⟩ := Option.map_eq_some_iff.mp hl
    obtain ⟨_, -, rfl⟩ := Option.map_eq_some_iff.mp hl'
    exact hlt
  · rw [List.map_filterMap]
    show numbers.filterMap d.numberedLine = _
    refine List.filterMap_congr fun n _ => ?_
    unfold numberedLine
    rw [Option.map_map]
    rfl

end Document

/-- Around any line of 32 bits, zero and lines behind the end of the source included, the lines of
the source are shown that are at most one away, each behind its number. The numbers are computed
without an overflow. The console gets these lines, after the line was noted as shown, and nothing
else about the document changes, not even what is pending on the console. The error log gets the
same lines, each with a line break, also when they have been shown before. -/
theorem source_context_is_exact (d : Document) (line : UInt32) :
    ∃ lines, (∀ lines', d.IsContext line.toNat lines' ↔ lines' = lines) ∧
      d.contextLines line.toNat = lines.map Document.lineText ∧
      d.contextLines? line = some (lines.map Document.lineText) ∧
      Host.showErrorLines line.toNat d =
        { d with
          highlighted := d.highlighted ++ [line.toNat]
          console := d.console ++
            lines.map fun l => ⟨errorFore, errorBack, Document.lineText l⟩ } ∧
      Host.errorLinesText d line.toNat =
        String.join (lines.map fun l => Document.lineText l ++ "\n") ∧
      Host.errorLinesText (Host.showErrorLines line.toNat d) line.toNat =
        Host.errorLinesText d line.toNat := by
  obtain ⟨lines, hcontext, hlines⟩ := d.exists_context line.toNat
  refine ⟨lines, fun lines' => ⟨fun h => h.unique hcontext, ?_⟩, hlines, ?_, ?_, ?_, rfl⟩
  · rintro rfl
    exact hcontext
  · rw [d.contextLines?_eq_some, hlines]
  · show d.showErrorLines line.toNat = _
    unfold Document.showErrorLines
    rw [hlines, List.map_map]
    rfl
  · show d.errorLinesText line.toNat = _
    unfold Document.errorLinesText
    rw [hlines, List.map_map]
    rfl

end EventScripts
