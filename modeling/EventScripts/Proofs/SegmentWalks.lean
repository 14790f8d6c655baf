import EventScripts.Proofs.Lookups

/-!
# Names with dots as walks

What a name with dots stands for is found by a walk: from a table on, one field is read after the
other, each in the machine that the reading before has left. The walk of two names with a dot
between them is the walk of the first and, if that comes to a table, the walk of the second from
there. A name is that of a function exactly if none of its parts is empty, every part but the last
leads to a table, and the last one to a function.

All that counts is what kind of value is come to. A table that can be called is walked through as
any other table, and is not taken for a function.
-/

set_option autoImplicit false

namespace EventScripts.Script

/-! ## Walks -/

/-- Reading a field of a value gives a value, nil if reading fails, and leaves a machine. -/
def Reads (vm : Vm) (v : Value) (part : List Char) (found : Value) (vm' : Vm) : Prop :=
  match Machine.run (Machine.index invoke .outside none v (.text (String.ofList part))) vm with
  | (.ok w, after) => found = w ∧ vm' = after
  | (.error _, after) => found = .nil ∧ vm' = after

/-- Reading one field after the other leads from a value to a value. -/
inductive Leads : Vm → Value → List (List Char) → Value → Vm → Prop
  | nil (vm : Vm) (v : Value) : Leads vm v [] v vm
  | cons {vm vm₁ vm' : Vm} {v next found : Value} {part : List Char} {parts : List (List Char)}
      (head : Reads vm v part next vm₁) (tail : Leads vm₁ next parts found vm') :
      Leads vm v (part :: parts) found vm'

/-- All fields but the last lead to tables. -/
def TablesBefore (vm : Vm) (v : Value) (parts : List (List Char)) : Prop :=
  ∀ before, before <+: parts → before ≠ parts →
    ∃ ref vm₁, Leads vm v before (.table ref) vm₁

/-- A field is read in the relation as it is in the program. -/
theorem reads_iff {vm vm' : Vm} {v found : Value} {part : List Char} :
    Reads vm v part found vm' ↔ Machine.run (fieldOrNil v part) vm = (.ok found, vm') := by
  unfold Reads fieldOrNil
  rw [Machine.run_tryCatch]
  rcases Machine.run (Machine.index invoke .outside none v (.text (String.ofList part))) vm with
    ⟨e | w, after⟩
  · dsimp only
    rw [Machine.run_pure, Prod.mk.injEq, Except.ok.injEq]
    exact and_congr eq_comm eq_comm
  · dsimp only
    rw [Prod.mk.injEq, Except.ok.injEq]
    exact and_congr eq_comm eq_comm

/-- Without further fields a walk stays. -/
theorem leads_nil_iff {vm vm' : Vm} {v found : Value} :
    Leads vm v [] found vm' ↔ found = v ∧ vm' = vm := by
  constructor
  · rintro ⟨⟩
    exact ⟨rfl, rfl⟩
  · rintro ⟨rfl, rfl⟩
    exact .nil _ _

/-- A walk goes on from where its first field leads. -/
theorem leads_cons_iff {vm vm₁ vm' : Vm} {v next found : Value} {part : List Char}
    {parts : List (List Char)} (h : Machine.run (fieldOrNil v part) vm = (.ok next, vm₁)) :
    Leads vm v (part :: parts) found vm' ↔ Leads vm₁ next parts found vm' := by
  constructor
  · intro hleads
    cases hleads with
    | cons hhead htail =>
      have hsame := h.symm.trans (reads_iff.mp hhead)
      cases hsame
      exact htail
  · exact .cons (reads_iff.mpr h)

/-- Beside the first field, that comes from a table, the fields after it have to come from
tables. -/
theorem tablesBefore_cons_iff {vm vm₁ : Vm} {v next : Value} {part : List Char}
    {parts : List (List Char)} (h : Machine.run (fieldOrNil v part) vm = (.ok next, vm₁)) :
    TablesBefore vm v (part :: parts) ↔ (∃ ref, v = .table ref) ∧ TablesBefore vm₁ next parts := by
  constructor
  · intro hall
    constructor
    · obtain ⟨ref, vm₂, hleads⟩ := hall [] List.nil_prefix (List.cons_ne_nil part parts).symm
      exact ⟨ref, (leads_nil_iff.mp hleads).1.symm⟩
    · intro before hprefix hproper
      obtain ⟨ref, vm₂, hleads⟩ := hall (part :: before) ((List.prefix_cons_inj part).mpr hprefix)
        fun hsame => hproper (List.cons.inj hsame).2
      exact ⟨ref, vm₂, (leads_cons_iff h).mp hleads⟩
  · rintro ⟨⟨ref, rfl⟩, hall⟩ before hprefix hproper
    rcases List.prefix_cons_iff.mp hprefix with rfl | ⟨rest, rfl, hrest⟩
    · exact ⟨ref, vm, .nil _ _⟩
    · obtain ⟨ref', vm₂, hleads⟩ := hall rest hrest fun hsame => hproper (hsame ▸ rfl)
      exact ⟨ref', vm₂, (leads_cons_iff h).mpr hleads⟩

/-- From a table on, one part that is not empty is read and the rest is followed from there. -/
theorem follow_table (ref : Nat) (part : List Char) (parts : List (List Char)) :
    follow (.table ref) (part :: parts) =
      if part.isEmpty then pure none
      else fieldOrNil (.table ref) part >>= fun next => follow next parts := by
  rfl

/-- Following the parts of a name comes to a value exactly if the walk does, no part being empty
and all but the last leading to tables. -/
theorem run_follow_some_iff {vm vm' : Vm} {v found : Value} (parts : List (List Char)) :
    Machine.run (follow v parts) vm = (.ok (some found), vm') ↔
      (∀ part ∈ parts, part ≠ []) ∧ TablesBefore vm v parts ∧ Leads vm v parts found vm' := by
  induction parts generalizing v vm with
  | nil =>
    have hrun : Machine.run (follow v []) vm = (.ok (some v), vm) := Machine.run_pure _ vm
    have hvacuous : TablesBefore vm v [] := fun before hprefix hproper =>
      absurd (List.prefix_nil.mp hprefix) hproper
    rw [hrun, leads_nil_iff]
    constructor
    · intro hsame
      cases hsame
      exact ⟨nofun, hvacuous, rfl, rfl⟩
    · rintro ⟨-, -, rfl, rfl⟩
      rfl
  | cons part parts ih =>
    obtain ⟨next, vm₁, hnext⟩ := run_fieldOrNil v part vm
    rw [List.forall_mem_cons, tablesBefore_cons_iff hnext, leads_cons_iff hnext]
    cases v with
    | table ref =>
      rw [follow_table]
      by_cases hempty : part.isEmpty = true
      · have hpart : part = [] := List.isEmpty_iff.mp hempty
        rw [if_pos hempty, Machine.run_pure]
        exact iff_of_false nofun fun hall => hall.1.1 hpart
      · have hpart : part ≠ [] := fun hnil => hempty (List.isEmpty_iff.mpr hnil)
        rw [if_neg hempty, Machine.run_bind_of_ok hnext, ih]
        constructor
        · rintro ⟨hparts, htables, hleads⟩
          exact ⟨⟨hpart, hparts⟩, ⟨⟨ref, rfl⟩, htables⟩, hleads⟩
        · rintro ⟨⟨-, hparts⟩, ⟨-, htables⟩, hleads⟩
          exact ⟨hparts, htables, hleads⟩
    | _ =>
      refine iff_of_false ?_ ?_
      · nofun
      · rintro ⟨-, ⟨⟨ref, htable⟩, -⟩, -⟩
        cases htable

/-! ## Names put together -/

/-- Following more parts goes on from where following the first ones comes to. -/
theorem follow_append (v : Value) (parts more : List (List Char)) :
    follow v (parts ++ more) = (do
      match ← follow v parts with
      | some found => follow found more
      | none => pure none) := by
  induction parts generalizing v with
  | nil => rw [List.nil_append, follow, pure_bind]
  | cons part parts ih =>
    rw [List.cons_append]
    cases v with
    | table ref =>
      rw [follow_table, follow_table]
      by_cases hempty : part.isEmpty = true
      · rw [if_pos hempty, if_pos hempty, pure_bind]
      · rw [if_neg hempty, if_neg hempty, bind_assoc]
        exact bind_congr fun next => ih next
    | _ => simp only [follow, pure_bind]

/-- What two names with a dot between them stand for is what the second one stands for in the table
that the first one stands for. -/
theorem lookupIn_append (root : Nat) (p q : String) :
    lookupIn root (p ++ "." ++ q) = (do
      match ← lookupIn root p with
      | some (.table t) => lookupIn t q
      | _ => pure none) := by
  have hchars : (p ++ "." ++ q).toList = p.toList ++ '.' :: q.toList := by
    simp
  unfold lookupIn
  rw [hchars, segments_append, follow_append]
  refine bind_congr fun found => ?_
  cases hparts : segments q.toList with
  | nil => exact absurd hparts (segments_ne_nil _)
  | cons part parts =>
    rcases found with _ | v
    · rfl
    · cases v <;> rfl

/-! ## What a name comes to -/

/-- Looking a name up leaves the machine as it is if no function is asked for a field. -/
theorem run_lookupIn_of_path {root : Nat} {name : String} {vm vm' : Vm} {r : Option Value}
    (hrun : Machine.run (lookupIn root name) vm = (.ok r, vm'))
    (hpath : vm.path (.table root) (segments name.toList) ≠ none) : vm' = vm := by
  obtain ⟨found, hfound⟩ := Option.ne_none_iff_exists'.mp hpath
  have hread := run_follow_of_path _ _ hfound
  exact congrArg Prod.snd (hrun.symm.trans hread)

/-- A function is found exactly where a walk over tables leads to one. -/
theorem run_lookupFunctionIn_some_iff {root : Nat} {name : String} {vm vm' : Vm} {f : Function} :
    Machine.run (lookupFunctionIn root name) vm = (.ok (some f), vm') ↔
      Machine.run (lookupIn root name) vm = (.ok (some (.function f)), vm') := by
  obtain ⟨r, after, hlookup⟩ := run_lookupIn root name vm
  rw [run_lookupFunctionIn_of_lookupIn hlookup, hlookup]
  rcases r with _ | v
  · exact iff_of_false nofun nofun
  · cases v with
    | function g => simp [Value.function?]
    | _ => exact iff_of_false nofun nofun

/-- Looking up a name with dots in a table is the walk along its parts, and is put together from
the lookups of its pieces, each in the machine that the one before has left. It finds a function
exactly if no part is empty, every part but the last leads to a table, and the last one to that
function. It always comes to an answer. What it comes to is walked on from if it is a table,
whatever the metatable, and not if it is anything else; and it is taken for a function only if it is
one. If no function is asked for a field, the machine stays as it is. -/
theorem dotted_names_are_walks (root : Nat) :
    (∀ p q, lookupIn root (p ++ "." ++ q) = (do
      match ← lookupIn root p with
      | some (.table t) => lookupIn t q
      | _ => pure none)) ∧
    ∀ (name : String) (vm : Vm),
      (∀ f vm', Machine.run (lookupFunctionIn root name) vm = (.ok (some f), vm') ↔
        (∀ part ∈ name.toList.splitOn '.', part ≠ []) ∧
        TablesBefore vm (.table root) (name.toList.splitOn '.') ∧
        Leads vm (.table root) (name.toList.splitOn '.') (.function f) vm') ∧
      ∃ r vm', Machine.run (lookupIn root name) vm = (.ok r, vm') ∧
        Machine.run (lookupFunctionIn root name) vm = (.ok (r.bind Value.function?), vm') ∧
        (∀ q, Machine.run (lookupIn root (name ++ "." ++ q)) vm =
          match r with
          | some (.table t) => Machine.run (lookupIn t q) vm'
          | _ => (.ok none, vm')) ∧
        (vm.path (.table root) (name.toList.splitOn '.') ≠ none → vm' = vm) := by
  refine ⟨lookupIn_append root, fun name vm => ⟨fun f vm' => ?_, ?_⟩⟩
  · rw [run_lookupFunctionIn_some_iff, ← segments_eq_splitOn]
    exact run_follow_some_iff (segments name.toList)
  · obtain ⟨r, vm', hlookup⟩ := run_lookupIn root name vm
    refine ⟨r, vm', hlookup, run_lookupFunctionIn_of_lookupIn hlookup, fun q => ?_, fun hpath => ?_⟩
    · rw [lookupIn_append, Machine.run_bind_of_ok hlookup]
      rcases r with _ | v
      · exact Machine.run_pure _ vm'
      · cases v with
        | table t => rfl
        | _ => exact Machine.run_pure _ vm'
    · rw [← segments_eq_splitOn] at hpath
      exact run_lookupIn_of_path hlookup hpath

/-- A function that does nothing. -/
def idle : Function := ⟨0, .native (.standard "idle")⟩

/-- A machine with a global table that can be called and has a function in it. -/
def callableTable : Vm where
  tables := #[.ofEntries [(.text "t", .table 5)], .empty, .empty, .empty, .empty,
    { Table.ofEntries [(.text "f", .function idle)] with metatable := some 6 },
    .ofEntries [(.text "__call", .function idle)]]
  objects := #[]
  nextId := 1
  journal := []
  files := .fresh
  asked := []

/-- A table that can be called is not a function, but its name leads on to what is in it. -/
theorem callable_table_is_walked_through :
    (callableTable.provides (.table 5) "__call") = .function idle ∧
    Machine.run (lookupIn Vm.globals "t") callableTable = (.ok (some (.table 5)), callableTable) ∧
    Machine.run (lookupFunctionIn Vm.globals "t") callableTable = (.ok none, callableTable) ∧
    Machine.run (lookupIn Vm.globals "t.f") callableTable =
      (.ok (some (.function idle)), callableTable) ∧
    Machine.run (lookupFunctionIn Vm.globals "t.f") callableTable =
      (.ok (some idle), callableTable) := by
  have ht : callableTable.peek "t" = some (some (.table 5)) := rfl
  have hf : callableTable.peek "t.f" = some (some (.function idle)) := rfl
  exact ⟨rfl, run_lookup_of_peek ht, run_lookupFunction_of_peek ht, run_lookup_of_peek hf,
    run_lookupFunction_of_peek hf⟩

end EventScripts.Script
