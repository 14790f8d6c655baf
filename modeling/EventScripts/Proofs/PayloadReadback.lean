import Mathlib.Algebra.GroupWithZero.Nat
import EventScripts.Proofs.CaptureTables
import EventScripts.Proofs.Completion

/-!
# Lines and fields are read back from their tables

The table of a styled line has a table for each run under the numbers from one on, and the table of
fields has the values under their names. What can be seen of either from outside is enough to read
the line or the fields back: a text is that of its bytes, the numbers of colours and styles fit into
the integers of the machine, and the rows of what is seen stand in the order of the runs or of the
names.

No list of runs and no text that fits into memory is as long as the bound on whole numbers that are
different keys.
-/

set_option autoImplicit false

namespace EventScripts

open Script

/-! ## What is seen of a table -/

namespace Script.Snapshot

/-- The text that a byte string shows. -/
def text? : Snapshot → Option String
  | .string s => some s.lossy
  | _ => none

/-- The whole number that is shown. -/
def integer? : Snapshot → Option Int
  | .number (.integer n) => some n.toInt
  | _ => none

/-- The rows that a table shows. -/
def rows? : Snapshot → Option (List (Snapshot × Snapshot))
  | .table rows => some rows
  | _ => none

/-- Whether a byte string with the bytes of a name is shown. -/
def isName (name : String) : Snapshot → Bool
  | .string s => s == textBytes name
  | _ => false

/-- What a table shows under a name. -/
def under? (seen : Snapshot) (name : String) : Option Snapshot := do
  let rows ← seen.rows?
  let row ← rows.find? fun row => row.1.isName name
  return row.2

/-- A key is seen as a name exactly if it is the key of this name. -/
theorem isName_keySnapshot (name : String) (k : Key) :
    (Store.keySnapshot k).isName name = true ↔ k = .text name := by
  unfold Key.text
  cases k <;> simp [Store.keySnapshot, isName]

end Script.Snapshot

namespace Script.Vm

/-- The rows of a table before they are sorted. -/
def rowsOf (vm : Vm) (depth : Nat) (t : Table) : List (Snapshot × Snapshot) :=
  t.entries.map fun e => (Store.keySnapshot e.1, vm.snapshotTo depth e.2)

/-- Of a table its rows are seen, sorted by their keys. -/
theorem snapshotTo_of_holds {vm : Vm} {v : Value} {t : Table} (h : vm.Holds v t) (depth : Nat) :
    vm.snapshotTo (depth + 1) v =
      .table ((vm.rowsOf depth t).mergeSort fun a b => Store.keyLe a.1 b.1) := by
  obtain ⟨ref, rfl, htable⟩ := h
  have hread : vm.table ref = t := by
    unfold Store.table
    rw [htable]
    rfl
  unfold Store.snapshotTo rowsOf
  rw [hread]

/-- What a table has under a name is seen there, wherever the row is sorted to. -/
theorem under?_of_holds {vm : Vm} {v : Value} {t : Table} (h : vm.Holds v t) (hproper : t.Proper)
    {name : String} (hsome : t.get (.text name) ≠ .nil) (depth : Nat) :
    (vm.snapshotTo (depth + 1) v).under? name =
      some (vm.snapshotTo depth (t.get (.text name))) := by
  have hmem : (Store.keySnapshot (.text name), vm.snapshotTo depth (t.get (.text name))) ∈
      vm.rowsOf depth t := List.mem_map.mpr ⟨_, Table.mem_entries_of_get hsome, rfl⟩
  have hunique : ∀ row ∈ vm.rowsOf depth t, row.1.isName name = true →
      row = (Store.keySnapshot (.text name), vm.snapshotTo depth (t.get (.text name))) := by
    intro row hrow hname
    obtain ⟨e, he, rfl⟩ := List.mem_map.mp hrow
    have hkey : e.1 = .text name := (Snapshot.isName_keySnapshot name e.1).mp hname
    rw [← hkey, Table.get_of_mem hproper.distinct he]
  rw [snapshotTo_of_holds h]
  unfold Snapshot.under? Snapshot.rows?
  dsimp only [Option.bind_eq_bind, Option.bind_some]
  cases hfind : ((vm.rowsOf depth t).mergeSort fun a b => Store.keyLe a.1 b.1).find?
      fun row => row.1.isName name with
  | none =>
    have hno := List.find?_eq_none.mp hfind _ (List.mem_mergeSort.mpr hmem)
    exact absurd ((Snapshot.isName_keySnapshot name _).mpr rfl) hno
  | some row =>
    have hrow : row ∈ vm.rowsOf depth t :=
      List.mem_mergeSort.mp (List.mem_of_find?_eq_some hfind)
    have hname := List.find?_some hfind
    rw [hunique row hrow hname]
    rfl

end Script.Vm

/-! ## Runs -/

/-- A run as it is read back, with the length that its table gives. -/
structure SeenRun where
  run : StyleRun
  length : Nat

namespace SeenRun

/-- What is read of the table of a run. -/
def ofRun (run : StyleRun) : SeenRun := ⟨run, run.text.length⟩

/-- The run that a table shows. -/
def ofSnapshot? (seen : Snapshot) : Option SeenRun := do
  let text ← (← seen.under? "text").text?
  let length ← (← seen.under? "length").integer?
  let fore ← (← seen.under? "textcolour").integer?
  let back ← (← seen.under? "backcolour").integer?
  let style ← (← seen.under? "style").integer?
  return ⟨⟨text, .ofNat fore.toNat, .ofNat back.toNat, .ofNat style.toNat⟩, length.toNat⟩

end SeenRun

/-- The value is a whole number of the machine, and this one. -/
def Script.Value.IsInteger (v : Value) (n : Nat) : Prop :=
  ∃ i : Int64, v = .integer i ∧ i.toInt = n

/-- Numbers below the bound are whole numbers of the machine. -/
theorem Script.Value.isInteger_of_lt {n : Nat} (h : n < listBound) :
    (Value.integer (Int64.ofNat n)).IsInteger n :=
  ⟨_, rfl, Int64.toInt_ofNat_of_lt h⟩

/-- A whole number of the machine is seen as what it is. -/
theorem Script.Value.IsInteger.seen {v : Value} {n : Nat} (h : v.IsInteger n) (vm : Vm)
    (depth : Nat) : (vm.snapshotTo depth v).integer? = some ↑n := by
  obtain ⟨i, rfl, hi⟩ := h
  rw [← hi]
  cases depth <;> rfl

namespace StyleRun

/-- The names of what the table of a run has. -/
def fieldNames : List String := ["text", "length", "textcolour", "backcolour", "style"]

/-- A table has exactly the five fields of a run: the text byte for byte, the number of its
characters, both colours and the style. -/
structure Tabulates (run : StyleRun) (t : Table) : Prop where
  keys : ∀ k, t.HasKey k ↔ ∃ name ∈ fieldNames, k = .text name
  text : t.get (.text "text") = .text run.text
  length : (t.get (.text "length")).IsInteger run.text.length
  fore : (t.get (.text "textcolour")).IsInteger run.fore.toNat
  back : (t.get (.text "backcolour")).IsInteger run.back.toNat
  style : (t.get (.text "style")).IsInteger run.style.toNat
  proper : t.Proper
  plain : t.metatable = none

/-- The table of a run has the five names as its keys. -/
theorem keys_table (run : StyleRun) : run.table.entries.map (·.1) = fieldNames.map Key.text := by
  rfl

/-- The five names are different. -/
theorem distinct_table (run : StyleRun) : (run.table.entries.map (·.1)).Nodup := by
  rw [keys_table]
  decide

/-- The table of a run has its five fields. -/
theorem tabulates_table {run : StyleRun} (h : run.text.length < listBound) :
    run.Tabulates run.table := by
  have hget : ∀ e ∈ run.table.entries, run.table.get e.1 = e.2 :=
    fun e he => Table.get_of_mem run.distinct_table he
  simp only [table, Table.ofEntries, List.mem_cons, List.not_mem_nil, or_false,
    forall_eq_or_imp, forall_eq] at hget
  obtain ⟨htext, hlength, hfore, hback, hstyle⟩ := hget
  have hcolour : ∀ c : UInt32, c.toNat < listBound :=
    fun c => lt_trans c.toNat_lt (by decide)
  refine ⟨?_, htext, ?_, ?_, ?_, ?_, ⟨run.distinct_table, ?_⟩, rfl⟩
  · intro k
    unfold Table.HasKey
    rw [keys_table, List.mem_map]
    exact exists_congr fun name => and_congr_right fun _ => eq_comm
  · exact hlength ▸ Value.isInteger_of_lt h
  · exact hfore ▸ Value.isInteger_of_lt (hcolour run.fore)
  · exact hback ▸ Value.isInteger_of_lt (hcolour run.back)
  · exact hstyle ▸ Value.isInteger_of_lt (lt_trans run.style.toNat_lt (by decide))
  · simp [table, Table.ofEntries, Value.text, Value.integer]

/-- The run is read back from a table with its five fields. -/
theorem Tabulates.read {run : StyleRun} {vm : Vm} {v : Value} {t : Table}
    (h : run.Tabulates t) (hholds : vm.Holds v t) (depth : Nat) :
    SeenRun.ofSnapshot? (vm.snapshotTo (depth + 1) v) = some (.ofRun run) := by
  have hunder : ∀ name ∈ fieldNames, (vm.snapshotTo (depth + 1) v).under? name =
      some (vm.snapshotTo depth (t.get (.text name))) := by
    intro name hname
    refine Vm.under?_of_holds hholds h.proper ?_ depth
    rw [← h.proper.hasKey_iff]
    exact (h.keys _).mpr ⟨name, hname, rfl⟩
  have htext : (vm.snapshotTo depth (t.get (.text "text"))).text? = some run.text := by
    rw [h.text]
    cases depth <;> exact congrArg some (lossy_textBytes run.text)
  unfold SeenRun.ofSnapshot? SeenRun.ofRun
  rw [hunder "text" (by decide), hunder "length" (by decide), hunder "textcolour" (by decide),
    hunder "backcolour" (by decide), hunder "style" (by decide)]
  simp only [Option.bind_eq_bind, Option.bind_some, htext, h.length.seen, h.fore.seen,
    h.back.seen, h.style.seen, Int.toNat_natCast, UInt32.ofNat_toNat, UInt16.ofNat_toNat]
  rfl

end StyleRun

/-! ## Lines -/

/-- Where every part is read, the list is. -/
theorem mapM_of_forall₂ {α β γ : Type} {f : β → Option γ} {g : α → γ} {xs : List α} {ys : List β}
    (h : List.Forall₂ (fun x y => f y = some (g x)) xs ys) : ys.mapM f = some (xs.map g) := by
  induction h with
  | nil => rfl
  | cons hfirst _ ih =>
    rw [List.mapM_cons, hfirst, ih]
    rfl

namespace StyledLine

/-- The line fits into memory. -/
structure Fits (line : StyledLine) : Prop where
  runs : line.runs.length < listBound
  texts : ∀ run ∈ line.runs, run.text.length < listBound

/-- A table has exactly the numbers from one to the number of runs as its keys, and under each of
them a table with the five fields of the run. -/
structure Tabulates (line : StyledLine) (vm : Vm) (t : Table) : Prop where
  keys : ∀ k, t.HasKey k ↔ ∃ i < line.runs.length, k = .integer (Int64.ofNat (i + 1))
  runs : ∀ i run, line.runs[i]? = some run →
    ∃ r, vm.Holds (t.get (.integer (Int64.ofNat (i + 1)))) r ∧ run.Tabulates r
  proper : t.Proper
  plain : t.metatable = none

/-- The runs that a table shows. -/
def seenRuns? (seen : Snapshot) : Option (List SeenRun) := do
  let rows ← seen.rows?
  (rows.map (·.2)).mapM SeenRun.ofSnapshot?

/-- The line that a table shows. -/
def ofSnapshot? (seen : Snapshot) : Option StyledLine := do
  let runs ← seenRuns? seen
  return ⟨runs.map (·.run)⟩

/-- The keys of a list are the numbers from one on. -/
theorem keys_table (vs : List Value) :
    (table vs).entries.map (·.1) =
      (List.range vs.length).map fun i => .integer (Int64.ofNat (i + 1)) := by
  apply List.ext_getElem
  · simp [table]
  · intro i _ _
    simp [table]

/-- A list of values that are not nil is a proper table. -/
theorem proper_table {vs : List Value} (hshort : vs.length < listBound)
    (hpresent : ∀ v ∈ vs, v ≠ .nil) : (table vs).Proper := by
  constructor
  · rw [keys_table]
    refine List.Pairwise.map _ (fun i j (hij : i < j ∧ j < vs.length) => ?_) ?_
    · rw [Ne, integer_ofNat_inj (by omega) (by omega)]
      omega
    · exact List.pairwise_lt_range.imp_of_mem fun _ hj hij => ⟨hij, List.mem_range.mp hj⟩
  · intro e he
    obtain ⟨i, hi, rfl⟩ := List.mem_mapIdx.mp he
    exact hpresent _ (List.getElem_mem hi)

/-- A list has its values under the numbers from one on. -/
theorem get_table {vs : List Value} (hshort : vs.length < listBound)
    (hpresent : ∀ v ∈ vs, v ≠ .nil) {i : Nat} {v : Value} (hv : vs[i]? = some v) :
    (table vs).get (.integer (Int64.ofNat (i + 1))) = v := by
  obtain ⟨hi, rfl⟩ := List.getElem?_eq_some_iff.mp hv
  have hmem : (Key.integer (Int64.ofNat (i + 1)), vs[i]) ∈ (table vs).entries :=
    List.mem_mapIdx.mpr ⟨i, hi, rfl⟩
  exact Table.get_of_mem (proper_table hshort hpresent).distinct hmem

/-- The rows of the table of a line are sorted already. -/
theorem rowsOf_table {vs : List Value} (hshort : vs.length < listBound) (vm : Vm) (depth : Nat) :
    (vm.rowsOf depth (table vs)).mergeSort (fun a b => Store.keyLe a.1 b.1) =
      vm.rowsOf depth (table vs) := by
  apply List.mergeSort_of_pairwise
  apply List.pairwise_iff_getElem.mpr
  intro i j hi hj hij
  simp only [Vm.rowsOf, table, List.length_map, List.length_mapIdx] at hi hj
  unfold listBound at hshort
  simp only [Vm.rowsOf, table, List.getElem_map, List.getElem_mapIdx, Store.keySnapshot,
    Store.keyLe, decide_eq_true_eq]
  rw [Int64.le_iff_toInt_le, Int64.toInt_ofNat_of_lt (by omega), Int64.toInt_ofNat_of_lt (by omega)]
  omega

section

variable {line : StyledLine} {vm : Vm} {v : Value}

/-- What stands for a line that fits into memory is a table with its closed form, -/
theorem tabulates_of_stands (hfits : line.Fits) (h : (Payload.styledLine line).Stands vm v) :
    ∃ t, vm.Holds v t ∧ line.Tabulates vm t := by
  obtain ⟨vs, hholds, hruns⟩ := h
  have hlength : line.runs.length = vs.length := hruns.length_eq
  have hshort : vs.length < listBound := hlength ▸ hfits.runs
  have hheld : ∀ i (hi : i < line.runs.length) (hi' : i < vs.length),
      vm.Holds vs[i] line.runs[i].table := (List.forall₂_iff_get.mp hruns).2
  have hpresent : ∀ w ∈ vs, w ≠ .nil := by
    intro w hw
    obtain ⟨i, hi, rfl⟩ := List.getElem_of_mem hw
    obtain ⟨ref, hv, _⟩ := hheld i (hlength ▸ hi) hi
    rw [hv]
    nofun
  refine ⟨table vs, hholds, ?_, ?_, proper_table hshort hpresent, rfl⟩
  · intro k
    unfold Table.HasKey
    rw [keys_table, List.mem_map, hlength]
    exact exists_congr fun i => and_congr List.mem_range eq_comm
  · intro i run hrun
    obtain ⟨hi, rfl⟩ := List.getElem?_eq_some_iff.mp hrun
    have hi' : i < vs.length := hlength ▸ hi
    refine ⟨_, ?_, StyleRun.tabulates_table (hfits.texts _ (List.getElem_mem hi))⟩
    rw [get_table hshort hpresent (List.getElem?_eq_getElem hi')]
    exact hheld i hi hi'

/-- and its runs are read back, each with the number of its characters. -/
theorem seenRuns?_of_stands (hfits : line.Fits) (h : (Payload.styledLine line).Stands vm v) :
    seenRuns? (vm.snapshot v) = some (line.runs.map SeenRun.ofRun) := by
  obtain ⟨vs, hholds, hruns⟩ := h
  have hshort : vs.length < listBound := hruns.length_eq ▸ hfits.runs
  have hvalues : (vm.rowsOf 63 (table vs)).map (·.2) = vs.map (vm.snapshotTo 63) := by
    apply List.ext_getElem
    · simp [Vm.rowsOf, table]
    · intro i _ _
      simp [Vm.rowsOf, table]
  unfold seenRuns? Store.snapshot Store.snapshotDepth
  rw [Vm.snapshotTo_of_holds hholds, rowsOf_table hshort]
  unfold Snapshot.rows?
  dsimp only [Option.bind_eq_bind, Option.bind_some]
  rw [hvalues, List.mapM_map]
  apply mapM_of_forall₂
  refine ((List.forall₂_and_left _ _).mpr ⟨hfits.texts, hruns⟩).imp ?_
  rintro run w ⟨htext, hw⟩
  exact (StyleRun.tabulates_table htext).read hw 62

end

/-- The value stands for the line and nothing of it is lost: the table has its closed form, the runs
are read back from what is seen of it, the texts of the runs make up the text of the line, and the
lengths that the runs give make up its length. -/
structure KeptIn (line : StyledLine) (vm : Vm) (v : Value) : Prop where
  table : ∃ t, vm.Holds v t ∧ line.Tabulates vm t
  recovered : ofSnapshot? (vm.snapshot v) = some line
  runs : ∃ runs, seenRuns? (vm.snapshot v) = some runs ∧
    String.join (runs.map (·.run.text)) = line.text ∧
    (runs.map (·.length)).sum = line.text.length

/-- The lengths of the runs make up that of the line. -/
theorem sum_lengths (line : StyledLine) :
    ((line.runs.map SeenRun.ofRun).map (·.length)).sum = line.text.length := by
  unfold text
  rw [String.length_join, List.map_map, List.map_map]
  rfl

/-- Nothing of a line is lost in a value that stands for it. -/
theorem keptIn_of_stands {line : StyledLine} {vm : Vm} {v : Value} (hfits : line.Fits)
    (h : (Payload.styledLine line).Stands vm v) : line.KeptIn vm v := by
  have hseen := seenRuns?_of_stands hfits h
  have hruns : (line.runs.map SeenRun.ofRun).map (·.run) = line.runs := by
    rw [List.map_map]
    exact List.map_id line.runs
  refine ⟨tabulates_of_stands hfits h, ?_, _, hseen, ?_, sum_lengths line⟩
  · unfold ofSnapshot?
    rw [hseen]
    exact congrArg (fun runs => some (StyledLine.mk runs)) hruns
  · unfold text
    rw [List.map_map]
    rfl

end StyledLine

/-! ## Fields -/

/-- Bytes that come before others are sorted before them. -/
theorem Bytes.le_of_lt {s t : Bytes} (h : s < t) : s.le t = true := by
  induction h with
  | nil => rfl
  | cons _ ih => simp [Bytes.le, ih]
  | rel hlt => simp [Bytes.le, hlt]

namespace Fields

/-- The fields are those of a map: in the order of their names, each name once. -/
def IsMap (fields : List (String × String)) : Prop :=
  (fields.map (·.1)).Pairwise (· < ·)

/-- A field is set where its name would be inserted. -/
theorem names_setField (name value : String) (fields : List (String × String)) :
    (setField name value fields).map (·.1) = insertName name (fields.map (·.1)) := by
  induction fields with
  | nil => rfl
  | cons field rest ih =>
    obtain ⟨n, v⟩ := field
    unfold setField
    rw [List.map_cons]
    unfold insertName
    split_ifs with hsame hbefore
    · rw [List.map_cons, beq_iff_eq.mp hsame]
    · rfl
    · rw [List.map_cons, ih]

/-- Pairs that are set one after the other make a map. -/
theorem isMap_fieldsOf (pairs : List (String × String)) : IsMap (fieldsOf pairs) := by
  unfold fieldsOf
  refine List.foldlRecOn _ _ List.Pairwise.nil fun fields hfields pair _ => ?_
  unfold IsMap
  rw [names_setField]
  exact pairwise_insertName hfields pair.1

/-- A table has exactly one entry for each of the fields. -/
structure Tabulates (fields : List (String × String)) (t : Table) : Prop where
  keys : ∀ k, t.HasKey k ↔ ∃ field ∈ fields, k = .text field.1
  values : ∀ field ∈ fields, t.get (.text field.1) = .text field.2
  count : t.entries.length = fields.length
  proper : t.Proper
  plain : t.metatable = none

/-- The fields that a table shows. -/
def ofSnapshot? (seen : Snapshot) : Option (List (String × String)) := do
  let rows ← seen.rows?
  rows.mapM fun row => do return (← row.1.text?, ← row.2.text?)

variable {fields : List (String × String)}

/-- The table of the fields of a map has an entry for each. -/
theorem tabulates_fieldTable (h : IsMap fields) : Tabulates fields (fieldTable fields) := by
  have hentries : (fieldTable fields).entries =
      fields.map fun field => (Key.text field.1, Value.text field.2) := rfl
  have hkeys : (fieldTable fields).entries.map (·.1) = (fields.map (·.1)).map Key.text := by
    rw [hentries, List.map_map, List.map_map]
    rfl
  have hdistinct : ((fieldTable fields).entries.map (·.1)).Nodup := by
    rw [hkeys]
    exact h.map _ fun a b hlt hab => hlt.ne (CaptureSet.text_inj.mp hab)
  refine ⟨?_, ?_, ?_, ⟨hdistinct, ?_⟩, rfl⟩
  · intro k
    unfold Table.HasKey
    rw [hkeys, List.map_map, List.mem_map]
    exact exists_congr fun field => and_congr_right fun _ => eq_comm
  · intro field hfield
    exact Table.get_of_mem hdistinct (List.mem_map.mpr ⟨field, hfield, rfl⟩)
  · rw [hentries, List.length_map]
  · intro e he
    obtain ⟨field, _, rfl⟩ := List.mem_map.mp (hentries ▸ he)
    nofun

/-- The fields of a map are read back from their table. -/
theorem ofSnapshot?_of_holds {vm : Vm} {v : Value} (h : IsMap fields)
    (hholds : vm.Holds v (fieldTable fields)) : ofSnapshot? (vm.snapshot v) = some fields := by
  have hrows : vm.rowsOf 63 (fieldTable fields) =
      fields.map fun field => (.string (textBytes field.1), .string (textBytes field.2)) := by
    unfold Vm.rowsOf fieldTable Table.ofEntries
    rw [List.map_map]
    rfl
  -- The bytes of the names are in the order of the names.
  have hsorted : (vm.rowsOf 63 (fieldTable fields)).mergeSort (fun a b => Store.keyLe a.1 b.1) =
      vm.rowsOf 63 (fieldTable fields) := by
    apply List.mergeSort_of_pairwise
    rw [hrows, List.pairwise_map]
    exact (List.pairwise_map.mp h).imp fun hlt => Bytes.le_of_lt (textBytes_lt hlt)
  unfold ofSnapshot? Store.snapshot Store.snapshotDepth
  rw [Vm.snapshotTo_of_holds hholds, hsorted, hrows]
  unfold Snapshot.rows?
  dsimp only [Option.bind_eq_bind, Option.bind_some]
  rw [List.mapM_map, mapM_of_forall₂ (g := id), List.map_id]
  exact List.forall₂_same.mpr fun field _ => by simp [Snapshot.text?]

/-- The value stands for the fields and nothing of them is lost. -/
structure KeptIn (fields : List (String × String)) (vm : Vm) (v : Value) : Prop where
  table : ∃ t, vm.Holds v t ∧ Tabulates fields t
  recovered : ofSnapshot? (vm.snapshot v) = some fields

end Fields

/-! ## Nothing is lost -/

namespace Payload

/-- What is seen of the argument that a payload becomes in some machine. -/
def ShownAs (p : Payload) (seen : Snapshot) : Prop :=
  ∃ vm v vm', Machine.run p.argument vm = (.ok v, vm') ∧ vm'.snapshot v = seen

/-- The argument of a payload stands for it. -/
theorem stands_of_run {p : Payload} {vm vm' : Vm} {v : Value}
    (h : Machine.run p.argument vm = (.ok v, vm')) : vm.Grows vm' ∧ p.Stands vm' v := by
  obtain ⟨w, vm₁, hrun, hgrows, hstands⟩ := p.argument_spec vm
  cases hrun.symm.trans h
  exact ⟨hgrows, hstands⟩

/-- Lines and fields are marshaled without loss. In every machine a line becomes a table of its
runs, and the fields of a map become a table with an entry for each, and both are read back from
what is seen of the table. So two lines, or two maps, of which the same is seen are the same. -/
theorem lines_and_fields_are_read_back :
    (∀ line : StyledLine, line.Fits → ∀ vm, ∃ v vm',
      Machine.run (Payload.styledLine line).argument vm = (.ok v, vm') ∧ vm.Grows vm' ∧
        line.KeptIn vm' v) ∧
    (∀ fields, Fields.IsMap fields → ∀ vm, ∃ v vm',
      Machine.run (Payload.fields fields).argument vm = (.ok v, vm') ∧ vm.Grows vm' ∧
        Fields.KeptIn fields vm' v) ∧
    (∀ line other : StyledLine, line.Fits → other.Fits → ∀ seen,
      (Payload.styledLine line).ShownAs seen → (Payload.styledLine other).ShownAs seen →
        line = other) ∧
    (∀ fields others, Fields.IsMap fields → Fields.IsMap others → ∀ seen,
      (Payload.fields fields).ShownAs seen → (Payload.fields others).ShownAs seen →
        fields = others) := by
  have hline : ∀ line : StyledLine, line.Fits → ∀ seen, (Payload.styledLine line).ShownAs seen →
      StyledLine.ofSnapshot? seen = some line := by
    rintro line hfits _ ⟨vm, v, vm', hrun, rfl⟩
    exact (StyledLine.keptIn_of_stands hfits (stands_of_run hrun).2).recovered
  have hfields : ∀ fields, Fields.IsMap fields → ∀ seen, (Payload.fields fields).ShownAs seen →
      Fields.ofSnapshot? seen = some fields := by
    rintro fields hmap _ ⟨vm, v, vm', hrun, rfl⟩
    exact Fields.ofSnapshot?_of_holds hmap (stands_of_run hrun).2
  refine ⟨?_, ?_, ?_, ?_⟩
  · intro line hfits vm
    obtain ⟨v, vm', hrun, hgrows, hstands⟩ := (Payload.styledLine line).argument_spec vm
    exact ⟨v, vm', hrun, hgrows, StyledLine.keptIn_of_stands hfits hstands⟩
  · intro fields hmap vm
    obtain ⟨v, vm', hrun, hgrows, hholds⟩ := (Payload.fields fields).argument_spec vm
    exact ⟨v, vm', hrun, hgrows, ⟨_, hholds, Fields.tabulates_fieldTable hmap⟩,
      Fields.ofSnapshot?_of_holds hmap hholds⟩
  · intro line other hfits hother seen hshown hsame
    exact Option.some.inj
      ((hline line hfits seen hshown).symm.trans (hline other hother seen hsame))
  · intro fields others hmap hother seen hshown hsame
    exact Option.some.inj
      ((hfields fields hmap seen hshown).symm.trans (hfields others hother seen hsame))

/-- A line with a NUL, a character of two bytes and an empty run, and with the greatest colours. -/
def banner : StyledLine := ⟨[⟨"a\x00é", 0xFFFFFFFF, 0, 0xFFFF⟩, ⟨"", 0, 0xC0C0C0, 0⟩]⟩

/-- The fields of a map in which one name was set twice. -/
def labels : List (String × String) := fieldsOf [("name", "x"), ("group", "é"), ("name", "")]

/-- Both are read back, and neither shows what an empty one shows. -/
theorem banner_and_labels_are_read_back :
    banner.Fits ∧ Fields.IsMap labels ∧
    (∃ v vm', Machine.run (Payload.styledLine banner).argument Vm.fresh = (.ok v, vm') ∧
      banner.KeptIn vm' v) ∧
    (∃ v vm', Machine.run (Payload.fields labels).argument Vm.fresh = (.ok v, vm') ∧
      Fields.KeptIn labels vm' v) ∧
    (∀ seen, (Payload.styledLine banner).ShownAs seen →
      ¬ (Payload.styledLine .empty).ShownAs seen) ∧
    (∀ seen, (Payload.fields labels).ShownAs seen → ¬ (Payload.fields []).ShownAs seen) := by
  have hbanner : banner.Fits := ⟨by decide, by decide⟩
  have hempty : StyledLine.empty.Fits := ⟨by decide, by decide⟩
  have hlabels : Fields.IsMap labels := Fields.isMap_fieldsOf _
  obtain ⟨hline, hfields, hlines, hmaps⟩ := lines_and_fields_are_read_back
  obtain ⟨v, vm, hrun, -, hkept⟩ := hline banner hbanner Vm.fresh
  obtain ⟨w, vm', hrun', -, hkept'⟩ := hfields labels hlabels Vm.fresh
  refine ⟨hbanner, hlabels, ⟨v, vm, hrun, hkept⟩, ⟨w, vm', hrun', hkept'⟩, ?_, ?_⟩
  · intro seen hshown hsame
    have hequal := hlines banner .empty hbanner hempty seen hshown hsame
    exact absurd hequal (by decide)
  · intro seen hshown hsame
    have hequal := hmaps labels [] hlabels List.Pairwise.nil seen hshown hsame
    exact absurd hequal (by decide)

end Payload

end EventScripts
