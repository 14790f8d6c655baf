import EventScripts.Proofs.Lookups

/-!
# Writing to tables

A write changes what one key of one table stands for, and no metatable. Setting a field of a table
without a metatable is such a write, and reading one gives what stands there; neither calls anything
nor fails.
-/

set_option autoImplicit false

namespace EventScripts.Script

namespace Table

/-- A key is found in front of the others or among them. -/
theorem find_cons (m l : Key) (w : Value) (es : List (Key × Value)) :
    ((m, w) :: es).find? (·.1 == l) = if m = l then some (m, w) else es.find? (·.1 == l) := by
  by_cases hml : m = l <;> simp [hml]

/-- After a value was put under a key, that key is found with it, and any other as before. -/
theorem find_put (k l : Key) (v : Value) (es : List (Key × Value)) :
    (put k v es).find? (·.1 == l) = if k = l then some (k, v) else es.find? (·.1 == l) := by
  induction es with
  | nil => exact find_cons k l v []
  | cons e es ih =>
    obtain ⟨m, w⟩ := e
    unfold put
    by_cases hmk : m = k
    · subst hmk
      rw [if_pos (beq_iff_eq.mpr rfl), find_cons, find_cons]
      by_cases hml : m = l
      · rw [if_pos hml, if_pos hml]
      · rw [if_neg hml, if_neg hml, if_neg hml]
    · rw [if_neg (by simpa using hmk), find_cons, find_cons, ih]
      by_cases hml : m = l
      · have hkl : k ≠ l := fun h => hmk (hml.trans h.symm)
        rw [if_pos hml, if_pos hml, if_neg hkl]
      · rw [if_neg hml, if_neg hml]

/-- After a key was taken out it is not found, and any other is found as before. -/
theorem find_without (k l : Key) (es : List (Key × Value)) :
    (es.filter (·.1 != k)).find? (·.1 == l) = if k = l then none else es.find? (·.1 == l) := by
  rw [List.find?_filter]
  by_cases hkl : k = l
  · rw [if_pos hkl, List.find?_eq_none]
    intro e _
    simp [hkl]
  · rw [if_neg hkl]
    congr 1
    funext e
    by_cases hel : e.1 = l
    · simp [hel, Ne.symm hkl]
    · simp [hel]

/-- A table with a value set gives that value under its key, and what it gave under any other. -/
theorem get_set (t : Table) (k l : Key) (v : Value) :
    (t.set k v).get l = if k = l then v else t.get l := by
  have hput : ({ t with entries := put k v t.entries } : Table).get l =
      if k = l then v else t.get l := by
    unfold get
    dsimp only
    rw [find_put]
    by_cases hkl : k = l
    · rw [if_pos hkl, if_pos hkl]
    · rw [if_neg hkl, if_neg hkl]
  cases v with
  | nil =>
    unfold set get
    dsimp only
    rw [find_without]
    by_cases hkl : k = l
    · rw [if_pos hkl, if_pos hkl]
    · rw [if_neg hkl, if_neg hkl]
  | _ => exact hput

/-- Setting a key keeps the metatable. -/
@[simp] theorem metatable_set (t : Table) (k : Key) (v : Value) :
    (t.set k v).metatable = t.metatable := by
  cases v <;> rfl

/-- What a table gives for a key is one of its entries, unless it is nil. -/
theorem mem_entries_of_get {t : Table} {k : Key} (h : t.get k ≠ .nil) :
    (k, t.get k) ∈ t.entries := by
  unfold get at h ⊢
  cases hfind : t.entries.find? (·.1 == k) with
  | none =>
    rw [hfind] at h
    exact absurd rfl h
  | some e =>
    have hkey : e.1 = k := by simpa using List.find?_some hfind
    rw [← hkey]
    exact List.mem_of_find?_eq_some hfind

/-- Of keys that are all different, each is found with the value it stands beside. -/
theorem get_of_mem {t : Table} (h : (t.entries.map (·.1)).Nodup) {e : Key × Value}
    (he : e ∈ t.entries) : t.get e.1 = e.2 := by
  have hfind : t.entries.find? (·.1 == e.1) = some e := by
    generalize t.entries = es at h he
    induction es with
    | nil => cases he
    | cons d es ih =>
      rw [List.map_cons, List.nodup_cons] at h
      obtain ⟨k, v⟩ := d
      rw [find_cons]
      rcases List.mem_cons.mp he with rfl | hrest
      · rw [if_pos rfl]
      · have hne : k ≠ e.1 := by
          rintro rfl
          exact h.1 (List.mem_map.mpr ⟨e, hrest, rfl⟩)
        rw [if_neg hne]
        exact ih h.2 hrest
  unfold get
  rw [hfind]

/-- A table of entries gives nothing but values of these entries, or nil. -/
theorem get_ofEntries (es : List (Key × Value)) (k : Key) :
    (ofEntries es).get k = .nil ∨ ∃ e ∈ es, (ofEntries es).get k = e.2 := by
  unfold get ofEntries
  dsimp only
  cases h : es.find? (·.1 == k) with
  | none => exact .inl rfl
  | some e => exact .inr ⟨e, List.mem_of_find?_eq_some h, rfl⟩

end Table

namespace Vm

/-- The machine with a value set under a key of a table. -/
def write (vm : Vm) (ref : Nat) (k : Key) (v : Value) : Vm :=
  { vm with tables := vm.tables.modify ref (·.set k v) }

/-- A table that does not exist has no fields. -/
theorem lt_size_of_get {vm : Vm} {ref : Nat} {k : Key} (h : (vm.table ref).get k ≠ .nil) :
    ref < vm.tables.size := by
  refine Nat.lt_of_not_le fun hle => h ?_
  unfold Store.table
  rw [Array.getElem?_eq_none hle]
  rfl

/-- The tables after a write. -/
theorem table_write (vm : Vm) (ref other : Nat) (k : Key) (v : Value) :
    (vm.write ref k v).table other =
      if ref = other ∧ ref < vm.tables.size then (vm.table ref).set k v else vm.table other := by
  unfold Store.table write
  dsimp only
  rw [Array.getElem?_modify]
  by_cases hother : ref = other
  · subst hother
    by_cases hsize : ref < vm.tables.size
    · rw [if_pos rfl, if_pos ⟨rfl, hsize⟩, Array.getElem?_eq_getElem hsize]
      rfl
    · rw [if_pos rfl, if_neg fun h => hsize h.2,
        Array.getElem?_eq_none (Nat.le_of_not_lt hsize)]
      rfl
  · rw [if_neg hother, if_neg fun h => hother h.1]

/-- What a key stands for after a write: what was written, or what it stood for. -/
theorem get_write (vm : Vm) (ref other : Nat) (k l : Key) (v : Value) :
    (ref = other ∧ k = l ∧ ((vm.write ref k v).table other).get l = v) ∨
    ((vm.write ref k v).table other).get l = (vm.table other).get l := by
  rw [table_write]
  by_cases hwritten : ref = other ∧ ref < vm.tables.size
  · rw [if_pos hwritten, Table.get_set]
    by_cases hkl : k = l
    · exact .inl ⟨hwritten.1, hkl, if_pos hkl⟩
    · right
      rw [if_neg hkl, hwritten.1]
  · rw [if_neg hwritten]
    exact .inr rfl

/-- A write leaves what any other key stands for. -/
theorem get_write_of_ne (vm : Vm) {ref other : Nat} {k l : Key} (h : ref = other → k ≠ l)
    (v : Value) : ((vm.write ref k v).table other).get l = (vm.table other).get l := by
  rcases vm.get_write ref other k l v with ⟨href, hkl, -⟩ | hget
  · exact absurd hkl (h href)
  · exact hget

/-- A write keeps every metatable. -/
@[simp] theorem metatable_write (vm : Vm) (ref other : Nat) (k : Key) (v : Value) :
    ((vm.write ref k v).table other).metatable = (vm.table other).metatable := by
  rw [table_write]
  by_cases hwritten : ref = other ∧ ref < vm.tables.size
  · rw [if_pos hwritten, Table.metatable_set, hwritten.1]
  · rw [if_neg hwritten]

/-- A write makes no table. -/
@[simp] theorem size_write (vm : Vm) (ref : Nat) (k : Key) (v : Value) :
    (vm.write ref k v).tables.size = vm.tables.size := by
  simp [write]

end Vm

namespace Machine

/-- A plain write on the machine. -/
@[simp] theorem run_rawSet (ref : Nat) (k : Key) (v : Value) (vm : Vm) :
    Machine.run (rawSet ref k v) vm = (.ok (), vm.write ref k v) := by
  rfl

/-- A table without a metatable provides nothing. -/
theorem provides_of_plain {vm : Vm} {ref : Nat} (h : (vm.table ref).metatable = none)
    (event : String) : vm.provides (.table ref) event = .nil := by
  unfold Vm.provides
  dsimp only
  rw [h]

/-- Reading a table without a metatable gives what stands there. -/
theorem run_index_of_plain {vm : Vm} {ref : Nat} {k : Value} {key : Key}
    (h : (vm.table ref).metatable = none) (hkey : Key.ofValue? k = some key) (call : Caller)
    (site : Site) (naming : Option Naming) :
    Machine.run (index call site naming (.table ref) k) vm =
      (.ok ((vm.table ref).get key), vm) := by
  have hentry : vm.entry ref k = (vm.table ref).get key := by
    unfold Vm.entry
    rw [hkey]
  unfold index chainLimit indexAlong
  rw [run_bind_of_ok (run_rawGetValue ref k vm), hentry]
  cases hvalue : (vm.table ref).get key with
  | nil =>
    dsimp only
    rw [run_bind_of_ok (run_provided _ "__index" vm), provides_of_plain h]
    exact run_pure _ vm
  | _ => exact run_pure _ vm

/-- Reading a field of a table gives what stands there, if anything does. -/
theorem run_index_of_present {vm : Vm} {ref : Nat} {k v : Value} {key : Key}
    (hkey : Key.ofValue? k = some key) (h : (vm.table ref).get key = v) (hv : v ≠ .nil)
    (call : Caller) (site : Site) (naming : Option Naming) :
    Machine.run (index call site naming (.table ref) k) vm = (.ok v, vm) := by
  refine run_index_of_field ?_ hv call site naming
  have hentry : vm.entry ref k = v := by
    unfold Vm.entry
    rw [hkey]
    exact h
  unfold Vm.field chainLimit
  dsimp only
  rw [hentry]
  cases v with
  | nil => exact absurd rfl hv
  | _ => rfl

/-- Setting a field of a table without a metatable is a write. -/
theorem run_setIndex_of_plain {vm : Vm} {ref : Nat} {k : Value} {key : Key}
    (h : (vm.table ref).metatable = none) (hkey : Key.ofValue? k = some key) (call : Caller)
    (site : Site) (naming : Option Naming) (v : Value) :
    Machine.run (setIndex call site naming (.table ref) k v) vm =
      (.ok (), vm.write ref key v) := by
  have hset : Machine.run (rawSetValue site ref k v) vm = (.ok (), vm.write ref key v) := by
    have hkeyOf : Machine.run (keyOf site k) vm = (.ok key, vm) := by
      unfold keyOf
      rw [hkey]
      exact run_pure _ vm
    unfold rawSetValue
    rw [run_bind_of_ok hkeyOf, run_rawSet]
  unfold setIndex chainLimit setIndexAlong
  rw [run_bind_of_ok (run_rawGetValue ref k vm)]
  cases vm.entry ref k with
  | nil =>
    dsimp only
    rw [run_bind_of_ok (run_provided _ "__newindex" vm), provides_of_plain h]
    exact hset
  | _ => exact hset

end Machine

/-- Reading a global variable gives what stands there, if the globals have no metatable. -/
theorem run_getGlobal_of_plain {vm : Vm} (h : (vm.table Vm.globals).metatable = none)
    (call : Caller) (site : Site) (name : Bytes) :
    Machine.run (getGlobal call site name) vm =
      (.ok ((vm.table Vm.globals).get (.string name)), vm) :=
  Machine.run_index_of_plain h rfl call site none

/-- Setting a global variable is a write, if the globals have no metatable. -/
theorem run_setGlobal_of_plain {vm : Vm} (h : (vm.table Vm.globals).metatable = none)
    (call : Caller) (site : Site) (name : Bytes) (v : Value) :
    Machine.run (setGlobal call site name v) vm =
      (.ok (), vm.write Vm.globals (.string name) v) :=
  Machine.run_setIndex_of_plain h rfl call site none v

end EventScripts.Script
