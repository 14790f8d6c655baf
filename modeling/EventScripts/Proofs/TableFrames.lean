import EventScripts.Proofs.Opening

/-!
# What a computation leaves of the tables

`Table.under?` is what stands under a key; a write changes it for one key of one table. Two machines
agree on some keys if the same stands under these in every table, and if no table was made, changed
its slots or got another metatable. A computation that only writes under other keys leads to a
machine that agrees with the one in which it began.
-/

set_option autoImplicit false

namespace EventScripts.Script

/-- What a value leaves behind when it is put under a key: nil leaves nothing. -/
def Value.present? : Value → Option Value
  | .nil => none
  | v => some v

/-- What is not nil is left behind. -/
theorem Value.present?_of_ne {v : Value} (h : v ≠ .nil) : v.present? = some v := by
  cases v with
  | nil => exact absurd rfl h
  | _ => rfl

namespace Table

/-- What stands under a key, if anything does. -/
def under? (t : Table) (k : Key) : Option Value :=
  (t.entries.find? (·.1 == k)).map (·.2)

/-- A table gives what stands under a key, and nil if nothing does. -/
theorem get_eq_under? (t : Table) (k : Key) : t.get k = (t.under? k).getD .nil := by
  unfold get under?
  cases t.entries.find? (·.1 == k) <;> rfl

/-- A table has a whole number when something stands under it. -/
theorem has_eq_under? (t : Table) (i : Nat) :
    t.has i = (t.under? (.integer (Int64.ofNat i))).isSome := by
  unfold has under?
  rw [Bool.eq_iff_iff, Option.isSome_map, List.find?_isSome, List.any_eq_true]

/-- Setting a key changes what stands under this key alone. -/
theorem under?_set (t : Table) (k l : Key) (v : Value) :
    (t.set k v).under? l = if k = l then v.present? else t.under? l := by
  have hput : ({ t with entries := put k v t.entries } : Table).under? l =
      if k = l then some v else t.under? l := by
    unfold under?
    dsimp only
    rw [find_put]
    by_cases hkl : k = l <;> simp [hkl]
  cases v with
  | nil =>
    unfold set under?
    dsimp only
    rw [find_without]
    by_cases hkl : k = l <;> simp [hkl, Value.present?]
  | _ => exact hput

/-- Setting a key makes no slots. -/
@[simp] theorem slots_set (t : Table) (k : Key) (v : Value) : (t.set k v).slots = t.slots := by
  cases v <;> rfl

end Table

namespace Vm

/-- A write changes what stands under one key of one table. -/
theorem under?_write (vm : Vm) (ref other : Nat) (k l : Key) (v : Value) :
    ((vm.write ref k v).table other).under? l =
      if (ref = other ∧ k = l) ∧ ref < vm.tables.size then v.present?
      else (vm.table other).under? l := by
  rw [table_write]
  by_cases hwritten : ref = other ∧ ref < vm.tables.size
  · rw [if_pos hwritten, Table.under?_set]
    by_cases hkl : k = l
    · rw [if_pos hkl, if_pos ⟨⟨hwritten.1, hkl⟩, hwritten.2⟩]
    · rw [if_neg hkl, if_neg fun h => hkl h.1.2, hwritten.1]
  · rw [if_neg hwritten, if_neg fun h => hwritten ⟨h.1.1, h.2⟩]

/-! ## Machines that agree -/

/-- Two machines agree on the keys that are kept. -/
structure Agree (kept : Nat → Key → Prop) (vm vm' : Vm) : Prop where
  size : vm'.tables.size = vm.tables.size
  metatable : ∀ ref, (vm'.table ref).metatable = (vm.table ref).metatable
  slots : ∀ ref, (vm'.table ref).slots = (vm.table ref).slots
  under : ∀ ref k, kept ref k → (vm'.table ref).under? k = (vm.table ref).under? k

variable {kept : Nat → Key → Prop} {vm vm' vm'' : Vm}

/-- A machine agrees with itself. -/
theorem Agree.refl (vm : Vm) : vm.Agree kept vm :=
  ⟨rfl, fun _ => rfl, fun _ => rfl, fun _ _ _ => rfl⟩

/-- Machines that agree with the same one agree. -/
theorem Agree.trans (h : vm.Agree kept vm') (h' : vm'.Agree kept vm'') : vm.Agree kept vm'' where
  size := h'.size.trans h.size
  metatable ref := (h'.metatable ref).trans (h.metatable ref)
  slots ref := (h'.slots ref).trans (h.slots ref)
  under ref k hk := (h'.under ref k hk).trans (h.under ref k hk)

/-- Machines that agree on some keys agree on fewer. -/
theorem Agree.mono {fewer : Nat → Key → Prop} (h : vm.Agree kept vm')
    (hfewer : ∀ ref k, fewer ref k → kept ref k) : vm.Agree fewer vm' :=
  ⟨h.size, h.metatable, h.slots, fun ref k hk => h.under ref k (hfewer ref k hk)⟩

/-- Machines give the same for the keys on which they agree. -/
theorem Agree.get (h : vm.Agree kept vm') {ref : Nat} {k : Key} (hk : kept ref k) :
    (vm'.table ref).get k = (vm.table ref).get k := by
  rw [Table.get_eq_under?, Table.get_eq_under?, h.under ref k hk]

/-- A machine that only calls, notes and counts agrees with itself on everything. -/
theorem Agree.of_tables (h : vm'.tables = vm.tables) : vm.Agree kept vm' := by
  have htable : ∀ ref, vm'.table ref = vm.table ref := by
    intro ref
    unfold Store.table
    rw [h]
  constructor
  · rw [h]
  · intro ref
    rw [htable]
  · intro ref
    rw [htable]
  · intro ref k _
    rw [htable]

/-- A write under a key that is not kept. -/
theorem Agree.write {ref : Nat} {k : Key} (h : ¬ kept ref k) (vm : Vm) (v : Value) :
    vm.Agree kept (vm.write ref k v) where
  size := vm.size_write ref k v
  metatable other := vm.metatable_write ref other k v
  slots other := by
    rw [table_write]
    by_cases hwritten : ref = other ∧ ref < vm.tables.size
    · rw [if_pos hwritten, Table.slots_set, hwritten.1]
    · rw [if_neg hwritten]
  under other l hl := by
    rw [under?_write]
    refine if_neg fun hwritten => h ?_
    obtain ⟨⟨rfl, rfl⟩, -⟩ := hwritten
    exact hl

end Vm

/-- No table has a metatable. -/
def Vm.Plain (vm : Vm) : Prop := ∀ ref, (vm.table ref).metatable = none

/-- A machine that agrees with a plain one is plain. -/
theorem Vm.Agree.plain {kept : Nat → Key → Prop} {vm vm' : Vm} (h : vm.Agree kept vm')
    (hplain : vm.Plain) : vm'.Plain :=
  fun ref => (h.metatable ref).trans (hplain ref)

end EventScripts.Script
