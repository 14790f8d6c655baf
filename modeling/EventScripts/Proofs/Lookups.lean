import EventScripts.Proofs.MachineRuns
import EventScripts.Script.Lookup

/-!
# Looking up names

Following a name with dots reads fields along chains of metatables, and a metatable may name a
function to be asked. A lookup never fails: where reading a field does, the field counts as nil.

`Vm.peek` says what a name stands for as far as that can be read off the machine: it is `none`
exactly where a function would have to be called. A lookup that can be read off in this way gives
what was read, and leaves the machine as it is.
-/

set_option autoImplicit false

namespace EventScripts.Script

/-! ## The parts of a name -/

/-- The parts of a name are what the dots leave. -/
theorem segments_eq_splitOn (cs : List Char) : segments cs = cs.splitOn '.' := by
  induction cs with
  | nil => rfl
  | cons c cs ih =>
    unfold List.splitOn at ih ⊢
    rw [segments, ih, List.splitOnP_cons_eq_if_modifyHead]
    by_cases hdot : (c == '.') = true
    · rw [if_pos hdot, if_pos hdot]
    · rw [if_neg hdot, if_neg hdot]
      cases hparts : cs.splitOnP (· == '.') with
      | nil => exact absurd hparts (List.splitOnP_ne_nil _ cs)
      | cons part parts => rfl

/-- Every name has a part, be it an empty one. -/
theorem segments_ne_nil (cs : List Char) : segments cs ≠ [] := by
  rw [segments_eq_splitOn]
  exact List.splitOnP_ne_nil _ cs

/-- The parts of two texts with a dot between them are those of the first and those of the
second. -/
theorem segments_append (cs ds : List Char) :
    segments (cs ++ '.' :: ds) = segments cs ++ segments ds := by
  induction cs with
  | nil => rfl
  | cons c cs ih =>
    rw [List.cons_append, segments, segments, ih]
    by_cases hdot : (c == '.') = true
    · rw [if_pos hdot, if_pos hdot, List.cons_append]
    · rw [if_neg hdot, if_neg hdot]
      cases hparts : segments cs with
      | nil => exact absurd hparts (segments_ne_nil cs)
      | cons part parts => rfl

namespace Vm

/-! ## What can be read off a machine -/

/-- The value under a key of a table, the metatable not asked. -/
def entry (vm : Vm) (ref : Nat) (k : Value) : Value :=
  match Key.ofValue? k with
  | some k => (vm.table ref).get k
  | none => .nil

/-- What the metatable of a value provides for an event. -/
def provides (vm : Vm) (v : Value) (event : String) : Value :=
  match v with
  | .table ref => match (vm.table ref).metatable with
    | some m => (vm.table m).get (.text event)
    | none => .nil
  | .string _ => (vm.table Vm.stringMeta).get (.text event)
  | _ => .nil

/-- The value under a key along a chain of metatables, nil if reading it fails; `none` if a
function has to be asked. The first argument bounds the length of the chain, of whose end only what
it has itself counts. -/
def field (vm : Vm) (k : Value) : Nat → Value → Option Value
  | 0, v => match v with
    | .table ref => some (vm.entry ref k)
    | _ => some .nil
  | fuel + 1, v => match v with
    | .table ref => match vm.entry ref k with
      | .nil => match vm.provides v "__index" with
        | .nil => some .nil
        | .function _ => none
        | next => vm.field k fuel next
      | found => some found
    | .object ref => match vm.objects[ref]? with
      | some o => some (o.method k)
      | none => some .nil
    | v => match vm.provides v "__index" with
      | .nil => some .nil
      | .function _ => none
      | next => vm.field k fuel next

/-- What the parts of a name lead to from a value on. -/
def path (vm : Vm) : Value → List (List Char) → Option (Option Value)
  | v, [] => some (some v)
  | v, part :: parts => match v with
    | .table _ =>
      if part.isEmpty then some none
      else match vm.field (.text (String.ofList part)) Machine.chainLimit v with
        | some next => vm.path next parts
        | none => none
    | _ => some none

/-- What a name with dots stands for; `none` if a function has to be asked. -/
def peek (vm : Vm) (name : String) : Option (Option Value) :=
  vm.path (.table Vm.globals) (segments name.toList)

/-- What a name stands for does not depend on the files. -/
theorem peek_among (vm : Vm) (files : FileTree) (name : String) :
    (vm.among files).peek name = vm.settled.peek name := by
  have hfield : ∀ (k : Value) (fuel : Nat) (v : Value),
      (vm.among files).field k fuel v = vm.settled.field k fuel v := by
    intro k fuel
    induction fuel with
    | zero => exact fun _ => rfl
    | succ fuel ih =>
      intro v
      unfold field
      simp only [ih]
      rfl
  have hpath : ∀ (parts : List (List Char)) (v : Value),
      (vm.among files).path v parts = vm.settled.path v parts := by
    intro parts
    induction parts with
    | nil => exact fun v => by cases v <;> rfl
    | cons part parts ih =>
      intro v
      unfold path
      simp only [ih, hfield]
  exact hpath _ _

/-- Without further parts a path leads to where it is. -/
theorem path_nil (vm : Vm) (v : Value) : vm.path v [] = some (some v) := by
  cases v <;> rfl

/-- A path that leads to a value begins at a table, with a field from which the rest leads on. -/
theorem path_cons {vm : Vm} {w v : Value} {part : List Char} {parts : List (List Char)}
    (h : vm.path w (part :: parts) = some (some v)) :
    ∃ ref next, w = .table ref ∧
      vm.field (.text (String.ofList part)) Machine.chainLimit w = some next ∧
      vm.path next parts = some (some v) := by
  unfold path at h
  cases w with
  | table ref =>
    dsimp only at h
    split at h
    · cases h
    · cases hfield : vm.field (.text (String.ofList part)) Machine.chainLimit (.table ref) with
      | none =>
        rw [hfield] at h
        cases h
      | some next =>
        rw [hfield] at h
        exact ⟨ref, next, rfl, rfl, h⟩
  | _ => cases h

end Vm

/-- The function that a value is. -/
def Value.function? : Value → Option Function
  | .function f => some f
  | _ => none

namespace Machine

/-! ## Reading leaves the machine as it is -/

/-- A plain read gives what the table has. -/
@[simp] theorem run_rawGet (ref : Nat) (k : Key) (vm : Vm) :
    Machine.run (rawGet ref k) vm = (.ok ((vm.table ref).get k), vm) := by
  rfl

/-- A plain read under any value gives what the table has there. -/
@[simp] theorem run_rawGetValue (ref : Nat) (k : Value) (vm : Vm) :
    Machine.run (rawGetValue ref k) vm = (.ok (vm.entry ref k), vm) := by
  unfold rawGetValue Vm.entry
  cases Key.ofValue? k <;> rfl

/-- What a metatable provides can be read off the machine. -/
@[simp] theorem run_provided (v : Value) (event : String) (vm : Vm) :
    Machine.run (provided v event) vm = (.ok (vm.provides v event), vm) := by
  unfold provided Vm.provides
  cases v with
  | table ref =>
    rw [run_bind_of_ok (run_get vm)]
    dsimp only
    cases (vm.table ref).metatable with
    | none => rw [run_pure]
    | some m => rw [run_rawGet]
  | _ => rfl

/-- A value has a name of its type in messages. -/
theorem run_typeLabel (v : Value) (vm : Vm) :
    ∃ label, Machine.run (typeLabel v) vm = (.ok label, vm) := by
  unfold typeLabel
  rw [run_bind_of_ok (run_provided v "__name" vm)]
  split <;> exact ⟨_, run_pure _ vm⟩

/-- A refusal is an error that leaves the machine as it is, a message at the position of the
site. -/
theorem run_refuse {α : Type} (site : Site) (action : String) (v : Value)
    (naming : Option Naming) (vm : Vm) :
    ∃ message, Machine.run (refuse site action v naming : Machine α) vm =
      (.error (.string (site.position 1 ++ message)), vm) := by
  obtain ⟨label, hlabel⟩ := run_typeLabel v vm
  unfold refuse
  rw [run_bind_of_ok hlabel]
  exact ⟨_, run_throw _ vm⟩

/-- What a metatable provides for reading, if that can be read off the machine. A value without a
metatable is read by `plain`, which either gives nil or fails. -/
theorem run_askIndex {call : Caller} {site : Site} {k v found : Value} {vm : Vm} {fuel : Nat}
    {plain : Machine Value}
    (hplain : Machine.run plain vm = (.ok .nil, vm) ∨ ∃ e, Machine.run plain vm = (.error e, vm))
    (hnext : ∀ next : Value, vm.field k fuel next = some found →
      Machine.run (indexAlong call site k fuel none next) vm = (.ok found, vm) ∨
      found = .nil ∧ ∃ e, Machine.run (indexAlong call site k fuel none next) vm = (.error e, vm))
    (h : (match vm.provides v "__index" with
      | .nil => some .nil
      | .function _ => none
      | next => vm.field k fuel next) = some found) :
    let m : Machine Value := do
      match ← provided v "__index" with
      | .nil => plain
      | .function f => Value.head <$> call (site.onEvent "index") f [v, k]
      | next => indexAlong call site k fuel none next
    Machine.run m vm = (.ok found, vm) ∨ found = .nil ∧ ∃ e, Machine.run m vm = (.error e, vm) := by
  intro m
  have hm : Machine.run m vm = Machine.run (match vm.provides v "__index" with
      | .nil => plain
      | .function f => Value.head <$> call (site.onEvent "index") f [v, k]
      | next => indexAlong call site k fuel none next) vm :=
    run_bind_of_ok (run_provided v "__index" vm) _
  rw [hm]
  cases hp : vm.provides v "__index" with
  | nil =>
    rw [hp] at h
    cases h
    exact hplain.imp id fun hfail => ⟨rfl, hfail⟩
  | function f =>
    rw [hp] at h
    cases h
  | _ =>
    rw [hp] at h
    exact hnext _ h

/-- Reading a field that can be read off the machine gives what was read, unless that is nil and
reading fails; it leaves the machine as it is. The induction is on the length of the chain. -/
theorem run_indexAlong_of_field (call : Caller) (site : Site) (k : Value) {vm : Vm}
    {found : Value} (fuel : Nat) (naming : Option Naming) (v : Value)
    (h : vm.field k fuel v = some found) :
    Machine.run (indexAlong call site k fuel naming v) vm = (.ok found, vm) ∨
    found = .nil ∧
      ∃ e, Machine.run (indexAlong call site k fuel naming v) vm = (.error e, vm) := by
  induction fuel generalizing naming v with
  | zero =>
    unfold indexAlong
    unfold Vm.field at h
    cases v with
    | table ref =>
      dsimp only at h ⊢
      cases h
      rw [run_bind_of_ok (run_rawGetValue ref k vm)]
      cases vm.entry ref k with
      | nil => exact .inr ⟨rfl, _, run_throw _ vm⟩
      | _ => exact .inl (run_pure _ vm)
    | _ =>
      cases h
      exact .inr ⟨rfl, _, run_throw _ vm⟩
  | succ fuel ih =>
    unfold indexAlong
    unfold Vm.field at h
    -- Only tables have entries of their own; all but native objects may have a metatable.
    cases v with
    | table ref =>
      dsimp only at h ⊢
      rw [run_bind_of_ok (run_rawGetValue ref k vm)]
      cases hraw : vm.entry ref k with
      | nil =>
        rw [hraw] at h
        exact run_askIndex (.inl (run_pure _ vm)) (fun next => ih none next) h
      | _ =>
        rw [hraw] at h
        cases h
        exact .inl (run_pure _ vm)
    | object ref =>
      dsimp only at h ⊢
      rw [run_bind_of_ok (run_get vm)]
      cases hobject : vm.objects[ref]? with
      | none =>
        rw [hobject] at h
        cases h
        exact .inl (run_pure _ vm)
      | some o =>
        rw [hobject] at h
        cases h
        exact .inl (run_pure _ vm)
    | _ =>
      refine run_askIndex (.inr ?_) (fun next => ih none next) h
      exact (run_refuse site "index" _ naming vm).imp' _ fun _ hrefused => hrefused

/-- A field that is there is read. -/
theorem run_index_of_field {vm : Vm} {k v w : Value} (h : vm.field k chainLimit w = some v)
    (hv : v ≠ .nil) (call : Caller) (site : Site) (naming : Option Naming) :
    Machine.run (index call site naming w k) vm = (.ok v, vm) := by
  rcases run_indexAlong_of_field call site k chainLimit naming w h with hok | ⟨hnil, -⟩
  · exact hok
  · exact absurd hnil hv

end Machine

/-! ## Lookups never fail -/

/-- Asking for a field gives a value, nil where reading the field fails. -/
theorem run_fieldOrNil (v : Value) (part : List Char) (vm : Vm) :
    ∃ found vm', Machine.run (fieldOrNil v part) vm = (.ok found, vm') := by
  unfold fieldOrNil
  rw [Machine.run_tryCatch]
  rcases Machine.run (Machine.index invoke .outside none v (.text (String.ofList part))) vm with
    ⟨e | found, vm'⟩
  · exact ⟨.nil, vm', Machine.run_pure _ vm'⟩
  · exact ⟨found, vm', rfl⟩

/-- Following the parts of a name comes to an answer. -/
theorem run_follow (parts : List (List Char)) (v : Value) (vm : Vm) :
    ∃ r vm', Machine.run (follow v parts) vm = (.ok r, vm') := by
  induction parts generalizing v vm with
  | nil => exact ⟨some v, vm, Machine.run_pure _ vm⟩
  | cons part parts ih =>
    unfold follow
    cases v with
    | table ref =>
      dsimp only
      by_cases hempty : part.isEmpty = true
      · rw [if_pos hempty]
        exact ⟨none, vm, Machine.run_pure _ vm⟩
      · rw [if_neg hempty]
        obtain ⟨found, vm₁, hfield⟩ := run_fieldOrNil (.table ref) part vm
        rw [Machine.run_bind_of_ok hfield]
        exact ih found vm₁
    | _ => exact ⟨none, vm, Machine.run_pure _ vm⟩

/-- The function that a name stands for is read off what the name stands for. -/
theorem run_lookupFunctionIn_of_lookupIn {root : Nat} {name : String} {vm vm' : Vm}
    {r : Option Value} (h : Machine.run (lookupIn root name) vm = (.ok r, vm')) :
    Machine.run (lookupFunctionIn root name) vm = (.ok (r.bind Value.function?), vm') := by
  unfold lookupFunctionIn
  rw [Machine.run_bind_of_ok h]
  rcases r with _ | v
  · rfl
  · cases v <;> rfl

/-- Looking up a name comes to an answer. -/
theorem run_lookupIn (root : Nat) (name : String) (vm : Vm) :
    ∃ r vm', Machine.run (lookupIn root name) vm = (.ok r, vm') :=
  run_follow (segments name.toList) (.table root) vm

/-- Looking up a function comes to an answer. -/
theorem run_lookupFunction (name : String) (vm : Vm) :
    ∃ f vm', Machine.run (lookupFunction name) vm = (.ok f, vm') := by
  obtain ⟨r, vm', hlookup⟩ := run_lookupIn Vm.globals name vm
  exact ⟨r.bind Value.function?, vm', run_lookupFunctionIn_of_lookupIn hlookup⟩

/-! ## Lookups that can be read off the machine -/

/-- A field that can be read off the machine is what asking for it gives. -/
theorem run_fieldOrNil_of_field {vm : Vm} {v found : Value} {part : List Char}
    (h : vm.field (.text (String.ofList part)) Machine.chainLimit v = some found) :
    Machine.run (fieldOrNil v part) vm = (.ok found, vm) := by
  unfold fieldOrNil Machine.index
  rw [Machine.run_tryCatch]
  rcases Machine.run_indexAlong_of_field invoke .outside _ _ none v h with hok | ⟨rfl, e, herror⟩
  · rw [hok]
  · rw [herror]
    exact Machine.run_pure _ vm

/-- A path that can be read off the machine is what following it gives. -/
theorem run_follow_of_path {vm : Vm} (parts : List (List Char)) (v : Value)
    {r : Option Value} (h : vm.path v parts = some r) :
    Machine.run (follow v parts) vm = (.ok r, vm) := by
  induction parts generalizing v with
  | nil =>
    cases h
    exact Machine.run_pure _ vm
  | cons part parts ih =>
    unfold follow
    unfold Vm.path at h
    cases v with
    | table ref =>
      dsimp only at h ⊢
      by_cases hempty : part.isEmpty = true
      · rw [if_pos hempty] at h ⊢
        cases h
        exact Machine.run_pure _ vm
      · rw [if_neg hempty] at h ⊢
        cases hfield : vm.field (.text (String.ofList part)) Machine.chainLimit (.table ref) with
        | none =>
          rw [hfield] at h
          cases h
        | some next =>
          rw [hfield] at h
          rw [Machine.run_bind_of_ok (run_fieldOrNil_of_field hfield)]
          exact ih next h
    | _ =>
      cases h
      exact Machine.run_pure _ vm

/-- A name that can be read off the machine is looked up without changing the machine. -/
theorem run_lookup_of_peek {vm : Vm} {name : String} {r : Option Value}
    (h : vm.peek name = some r) : Machine.run (lookup name) vm = (.ok r, vm) :=
  run_follow_of_path _ _ h

/-- The function that a name stands for, if that can be read off the machine. -/
theorem run_lookupFunction_of_peek {vm : Vm} {name : String} {r : Option Value}
    (h : vm.peek name = some r) :
    Machine.run (lookupFunction name) vm = (.ok (r.bind Value.function?), vm) :=
  run_lookupFunctionIn_of_lookupIn (run_lookup_of_peek h)

end EventScripts.Script
