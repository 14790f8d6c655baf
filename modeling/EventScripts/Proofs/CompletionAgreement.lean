import EventScripts.Proofs.OfferedNames

/-!
# The names offered for completion are those that can be looked up

The index of names is filled by a walk through the entries of certain tables; a name is looked up
part by part. In a machine whose globals are under `_G`, and in which none of these tables has a
metatable, the two agree. A name of the form that is offered, if it is that of a function, is
offered. If functions stand in these tables under names only, every name that is offered has that
form and is that of a function.
-/

set_option autoImplicit false

namespace EventScripts

open Script

namespace Script

/-- What counts as a function in a lookup counts as one in the walk. -/
theorem Value.isSome_function? (v : Value) : v.function?.isSome = Names.isFunction v := by
  cases v <;> rfl

end Script

namespace Names

/-- A name of the form in which functions are offered: a part without dots that does not start with
`_`, alone or behind one of the tables. -/
def Formed (name : String) : Prop :=
  ∃ part : String, part.toList ≠ [] ∧ '.' ∉ part.toList ∧ part.toList.head? ≠ some '_' ∧
    (name = part ∨ ∃ table ∈ functionTables, table ≠ "_G" ∧ name = table ++ "." ++ part)

/-- A name has the form if it is what a table offers a part under. -/
theorem formed_iff (name : String) :
    Formed name ↔ ∃ table ∈ functionTables, ∃ part : String, part.toList ≠ [] ∧
      '.' ∉ part.toList ∧ part.toList.head? ≠ some '_' ∧ name = Vm.offeredName table part := by
  constructor
  · rintro ⟨part, hne, hdot, hshown, rfl | ⟨table, htable, hglobals, rfl⟩⟩
    · exact ⟨"_G", by decide, name, hne, hdot, hshown, (if_pos rfl).symm⟩
    · exact ⟨table, htable, part, hne, hdot, hshown, (if_neg hglobals).symm⟩
  · rintro ⟨table, htable, part, hne, hdot, hshown, rfl⟩
    refine ⟨part, hne, hdot, hshown, ?_⟩
    by_cases hglobals : table = "_G"
    · exact .inl (if_pos hglobals)
    · exact .inr ⟨table, htable, hglobals, if_neg hglobals⟩

end Names

namespace Script.Vm

/-! ## Machines in which the two agree -/

/-- The globals are under `_G`, and none of the tables whose functions are offered has a
metatable. -/
structure Surveyed (vm : Vm) : Prop where
  self : (vm.table globals).get (.text "_G") = .table globals
  plain : ∀ table ∈ Names.functionTables, ∀ ref,
    (vm.table globals).get (.text table) = .table ref → (vm.table ref).metatable = none

/-- The functions in the tables whose functions are offered stand under names. None of these tables
has two entries for one key, as no table has whose entries were put there one after the other. -/
structure NamesFunctions (vm : Vm) : Prop where
  named : ∀ table ∈ Names.functionTables, ∀ e ∈ Names.tableEntries vm table,
    Names.isFunction e.2 = true → e.1.IsName
  distinct : ∀ table ∈ Names.functionTables, ((Names.tableEntries vm table).map (·.1)).Nodup

variable {vm : Vm} {table part : String}

/-- The table of the globals has no metatable. -/
theorem Surveyed.globals_plain (h : vm.Surveyed) : (vm.table globals).metatable = none :=
  h.plain "_G" (by decide) globals h.self

/-- A name of the form that is offered stands for what the table has under the part, and for nothing
if there is no such table. -/
theorem Surveyed.peek_offeredName (h : vm.Surveyed) (htable : table ∈ Names.functionTables)
    (hpart : part.toList ≠ [] ∧ '.' ∉ part.toList) :
    vm.peek (offeredName table part) =
      some (match (vm.table globals).get (.text table) with
        | .table ref => some ((vm.table ref).get (.text part))
        | _ => none) := by
  cases hglobal : (vm.table globals).get (.text table) with
  | table ref =>
    refine Vm.peek_offeredName h.globals_plain (h.plain table htable ref hglobal) htable hpart
      hglobal ?_
    rintro rfl
    rw [h.self] at hglobal
    cases hglobal
    rfl
  | _ =>
    -- The first part stands for something that is no table, so the name stands for nothing.
    have hprefixed : table ≠ "_G" := by
      rintro rfl
      rw [h.self] at hglobal
      cases hglobal
    obtain ⟨hne, hdot, -⟩ := functionTables_plain table htable
    unfold peek
    rw [segments_offeredName hdot hpart.2, if_neg hprefixed,
      path_cons_of_plain h.globals_plain hne, hglobal]
    rfl

/-- Looking up such a name finds a function exactly if the table has one under the part. -/
theorem Surveyed.lookup_finds_iff (h : vm.Surveyed) (htable : table ∈ Names.functionTables)
    (hpart : part.toList ≠ [] ∧ '.' ∉ part.toList) :
    (∃ f, (Machine.run (lookupFunction (offeredName table part)) vm).1 = .ok (some f)) ↔
      ∃ ref, (vm.table globals).get (.text table) = .table ref ∧
        Names.isFunction ((vm.table ref).get (.text part)) = true := by
  rw [run_lookupFunction_of_peek (h.peek_offeredName htable hpart)]
  dsimp only
  cases hglobal : (vm.table globals).get (.text table) with
  | table ref =>
    have hreads : (∃ f, (.ok (((vm.table ref).get (.text part)).function?) :
        Except Value (Option Function)) = .ok (some f)) ↔
          Names.isFunction ((vm.table ref).get (.text part)) = true := by
      rw [← Value.isSome_function?, Option.isSome_iff_exists]
      simp only [Except.ok.injEq]
    refine hreads.trans ⟨fun hfunction => ⟨ref, rfl, hfunction⟩, ?_⟩
    rintro ⟨ref', hsame, hfunction⟩
    cases hsame
    exact hfunction
  | _ =>
    refine iff_of_false ?_ ?_
    · rintro ⟨f, hf⟩
      cases hf
    · rintro ⟨ref, hsame, -⟩
      cases hsame

/-- In a machine with the globals under `_G`, and without metatables for the tables whose functions
are offered, a name of the form that is offered, other than the hidden one, is offered if looking it
up finds a function. If moreover functions stand in these tables under names only, looking up any
name that is offered finds a function, and the name has that form and is not the hidden one. -/
theorem completion_agrees_with_lookup (h : vm.Surveyed) :
    (∀ name, Names.Formed name → name ≠ Names.hiddenFunction →
      (∃ f, (Machine.run (lookupFunction name) vm).1 = .ok (some f)) →
      name ∈ (Names.ofMachine vm).functions) ∧
    (vm.NamesFunctions → ∀ name ∈ (Names.ofMachine vm).functions,
      (∃ f, (Machine.run (lookupFunction name) vm).1 = .ok (some f)) ∧
      Names.Formed name ∧ name ≠ Names.hiddenFunction) := by
  constructor
  · intro name hformed hnotHidden hfinds
    obtain ⟨table, htable, part, hne, hdot, hshown, rfl⟩ := (Names.formed_iff name).mp hformed
    obtain ⟨ref, hglobal, hfunction⟩ := (h.lookup_finds_iff htable ⟨hne, hdot⟩).mp hfinds
    have hoffers : vm.Offers table ref part := ⟨htable, hglobal, ⟨hne, hdot⟩, hfunction⟩
    exact hoffers.mem_functions hshown hnotHidden
  · intro hnames name hname
    obtain ⟨table, ref, part, hoffers, hshown, rfl⟩ :=
      offers_of_mem_functions hnames.named hnames.distinct hname
    refine ⟨?_, ?_, ((Names.mem_functions vm _).mp hname).2⟩
    · exact (h.lookup_finds_iff hoffers.listed hoffers.named).mpr
        ⟨ref, hoffers.global, hoffers.function⟩
    · exact (Names.formed_iff _).mpr
        ⟨table, hoffers.listed, part, hoffers.named.1, hoffers.named.2, hshown, rfl⟩

/-- A new machine offers `string.format`, and looking up any name that it offers finds a
function. -/
theorem completion_agrees_with_lookup_fresh :
    "string.format" ∈ (Names.ofMachine fresh).functions ∧
      ∀ name ∈ (Names.ofMachine fresh).functions,
        ∃ f, (Machine.run (lookupFunction name) fresh).1 = .ok (some f) := by
  have hsurveyed : fresh.Surveyed :=
    ⟨rfl, fun _ _ ref _ => untampered_fresh.plain ref⟩
  have hnames : fresh.NamesFunctions :=
    ⟨Operation.tidy_fresh.named, Operation.tidy_fresh.distinct⟩
  obtain ⟨hcomplete, hsound⟩ := completion_agrees_with_lookup hsurveyed
  constructor
  · have hformed : Names.Formed "string.format" :=
      ⟨"format", by decide, by decide, by decide,
        .inr ⟨"string", by decide, by decide, by decide⟩⟩
    have hfinds : (Machine.run (lookupFunction "string.format") fresh).1.toOption.join.isSome := by
      decide +kernel
    refine hcomplete _ hformed (by decide) ?_
    cases hrun : (Machine.run (lookupFunction "string.format") fresh).1 with
    | error e =>
      rw [hrun] at hfinds
      cases hfinds
    | ok f =>
      rw [hrun] at hfinds
      obtain ⟨g, hg⟩ := Option.isSome_iff_exists.mp hfinds
      exact ⟨g, congrArg Except.ok hg⟩
  · exact fun name hname => (hsound hnames name hname).1

end Script.Vm

end EventScripts
