import EventScripts.Proofs.Openers
import EventScripts.Proofs.OperationFrames
import EventScripts.Proofs.TableWrites

/-!
# Opening takes the machine's own functions for protected calls

While a machine is made, the host registers its routines, libraries are opened, native modules are
locked out and preloads are installed. No script runs in it but what the host brings itself. If the
host leaves the machine untampered, then whatever libraries and preloads are selected, the functions
for protected calls that are taken at the end are the machine's own.

What is kept on the way is that no table has a metatable, so that every access to a field is a plain
read or write; that the global variables `xpcall` and `pcall` are no other functions than these; and
that preloads are not written among the global variables.
-/

set_option autoImplicit false

namespace EventScripts

namespace Script

/-- The function of the standard library that a function is. -/
def Function.basic? (f : Function) : Option Basic :=
  match f.body with
  | .native (.basic b) => some b
  | _ => none

/-- The functions for protected calls are the machine's own `xpcall` and `pcall`. -/
structure Invoker.Genuine (inv : Invoker) : Prop where
  xpcall : inv.xpcall.basic? = some .xpcall
  pcall : inv.pcall.basic? = some .pcall

namespace Machine

variable {α β : Type}

/-- In a machine with `P`, a computation that gives a result ends with `Q`. -/
def Yields (P : Vm → Prop) (m : Machine α) (Q : α → Vm → Prop) : Prop :=
  ∀ vm a vm', P vm → Machine.run m vm = (.ok a, vm') → Q a vm'

/-- A computation whose run is known. -/
theorem yields_of_run {P : Vm → Prop} {m : Machine α} {Q : α → Vm → Prop}
    (h : ∀ vm, P vm → ∃ a vm', Machine.run m vm = (.ok a, vm') ∧ Q a vm') : Yields P m Q := by
  intro vm a vm' hvm hrun
  obtain ⟨b, vm'', hrun', hq⟩ := h vm hvm
  rw [hrun] at hrun'
  cases hrun'
  exact hq

/-- A value that is given yields what holds of it. -/
theorem yields_pure {P : Vm → Prop} {Q : α → Vm → Prop} {a : α} (h : ∀ vm, P vm → Q a vm) :
    Yields P (pure a) Q :=
  yields_of_run fun vm hvm => ⟨a, vm, run_pure a vm, h vm hvm⟩

/-- A computation that fails gives no result. -/
theorem yields_throw {P : Vm → Prop} {Q : α → Vm → Prop} (e : Value) :
    Yields P (throw e : Machine α) Q := by
  intro vm a vm' _ hrun
  cases hrun

/-- The second part of a sequence begins as the first one has ended. -/
theorem yields_bind {P : Vm → Prop} {R : α → Vm → Prop} {Q : β → Vm → Prop} {x : Machine α}
    {f : α → Machine β} (hx : Yields P x R) (hf : ∀ a, Yields (R a) (f a) Q) :
    Yields P (x >>= f) Q := by
  intro vm b vm'' hvm hrun
  rw [run_bind] at hrun
  rcases hfirst : Machine.run x vm with ⟨e | a, vm'⟩
  · rw [hfirst] at hrun
    cases hrun
  · rw [hfirst] at hrun
    exact hf a vm' b vm'' (hx vm a vm' hvm hfirst) hrun

/-- The second part of a sequence may use what is true of the result of the first. -/
theorem yields_bind_of_fact {P R : Vm → Prop} {fact : α → Prop} {Q : β → Vm → Prop}
    {x : Machine α} {f : α → Machine β} (hx : Yields P x fun a vm => R vm ∧ fact a)
    (hf : ∀ a, fact a → Yields R (f a) Q) : Yields P (x >>= f) Q :=
  yields_bind hx fun a vm b vm' hvm hrun => hf a hvm.2 vm b vm' hvm.1 hrun

end Machine

open Machine

/-! ## Untampered machines -/

namespace Vm

/-- A table that may be the value of `package`: it is not that of the global variables, nor are
these where it keeps the preloads. -/
def FitPackage (vm : Vm) (p : Nat) : Prop :=
  p ≠ globals ∧ p < vm.tables.size ∧ (vm.table p).get (.text "preload") ≠ .table globals

/-- No table of the machine has a metatable, and the functions for protected calls are not replaced
by others. -/
structure Untampered (vm : Vm) : Prop where
  globals : globals < vm.tables.size
  plain : ∀ ref, (vm.table ref).metatable = none
  xpcall : ∀ f, (vm.table Vm.globals).get (.text "xpcall") = .function f →
    f.basic? = some .xpcall
  pcall : ∀ f, (vm.table Vm.globals).get (.text "pcall") = .function f → f.basic? = some .pcall
  package : ∀ p, (vm.table Vm.globals).get (.text "package") = .table p → vm.FitPackage p

/-- A value may be written under a key of a table. -/
structure Harmless (vm : Vm) (ref : Nat) (k : Key) (v : Value) : Prop where
  xpcall : ref = globals → k = .text "xpcall" → ∀ f, v ≠ .function f
  pcall : ref = globals → k = .text "pcall" → ∀ f, v ≠ .function f
  package : ref = globals → k = .text "package" → ∀ p, v = .table p → vm.FitPackage p
  preload : ref ≠ globals → k = .text "preload" → v ≠ .table globals

/-- A package stays fit under a harmless write. -/
theorem FitPackage.write {vm : Vm} {p ref : Nat} {k : Key} {v : Value} (h : vm.FitPackage p)
    (hv : vm.Harmless ref k v) : (vm.write ref k v).FitPackage p := by
  obtain ⟨hglobals, hsize, hpreload⟩ := h
  refine ⟨hglobals, by rwa [size_write], ?_⟩
  rcases vm.get_write ref p k (.text "preload") v with ⟨hp, hk, hget⟩ | hget
  · rw [hget]
    exact hv.preload (fun hg => hglobals (hp.symm.trans hg)) hk
  · rwa [hget]

/-- A harmless write leaves a machine untampered. -/
theorem Untampered.write {vm : Vm} {ref : Nat} {k : Key} {v : Value} (h : vm.Untampered)
    (hv : vm.Harmless ref k v) : (vm.write ref k v).Untampered where
  globals := by
    rw [size_write]
    exact h.globals
  plain other := by
    rw [metatable_write]
    exact h.plain other
  xpcall f hf := by
    rcases vm.get_write ref Vm.globals k (.text "xpcall") v with ⟨href, hk, hget⟩ | hget
    · exact absurd (hget.symm.trans hf) (hv.xpcall href hk f)
    · exact h.xpcall f (hget.symm.trans hf)
  pcall f hf := by
    rcases vm.get_write ref Vm.globals k (.text "pcall") v with ⟨href, hk, hget⟩ | hget
    · exact absurd (hget.symm.trans hf) (hv.pcall href hk f)
    · exact h.pcall f (hget.symm.trans hf)
  package p hp := by
    rcases vm.get_write ref Vm.globals k (.text "package") v with ⟨href, hk, hget⟩ | hget
    · exact (hv.package href hk p (hget.symm.trans hp)).write hv
    · exact (h.package p (hget.symm.trans hp)).write hv

/-- A machine with the same tables is untampered too. -/
theorem Untampered.of_tables {vm vm' : Vm} (h : vm.Untampered) (hsame : vm'.tables = vm.tables) :
    vm'.Untampered := by
  have htable : ∀ ref, vm'.table ref = vm.table ref := by
    intro ref
    unfold Store.table
    rw [hsame]
  constructor
  · rw [hsame]
    exact h.globals
  · intro ref
    rw [htable]
    exact h.plain ref
  · rw [htable]
    exact h.xpcall
  · rw [htable]
    exact h.pcall
  · intro p hp
    rw [htable] at hp
    have hfit := h.package p hp
    unfold FitPackage at hfit ⊢
    rwa [hsame, htable]

/-- A new machine is untampered. -/
theorem untampered_fresh : fresh.Untampered where
  globals := by decide
  plain ref := by
    have hall : ∀ t ∈ fresh.tables, t.metatable = none := by
      simp [fresh, Table.ofEntries, Table.empty, Stock.searcherTable]
    unfold Store.table
    cases href : fresh.tables[ref]? with
    | none => rfl
    | some t => exact hall t (Array.mem_of_getElem? href)
  xpcall f hf := by
    cases hf
    rfl
  pcall f hf := by
    cases hf
    rfl
  package p hp := by
    cases hp
    exact ⟨by decide, by decide, nofun⟩

end Vm

/-! ## Computations that leave a machine untampered -/

variable {α β : Type}

/-- A computation that gives a result leaves an untampered machine untampered. -/
def Spares (m : Machine α) : Prop := Yields Vm.Untampered m fun _ => Vm.Untampered

/-- To give a value leaves a machine untampered. -/
theorem spares_pure (a : α) : Spares (pure a) :=
  yields_pure fun _ h => h

/-- A sequence leaves a machine untampered if its parts do. -/
theorem spares_bind {x : Machine α} {f : α → Machine β} (hx : Spares x)
    (hf : ∀ a, Spares (f a)) : Spares (x >>= f) :=
  yields_bind hx hf

/-- A computation whose run is known to leave the tables as they are. -/
theorem spares_of_run {m : Machine α}
    (h : ∀ vm, vm.Untampered → ∃ a vm', Machine.run m vm = (.ok a, vm') ∧
      vm'.tables = vm.tables) : Spares m :=
  yields_of_run fun vm hvm => by
    obtain ⟨a, vm', hrun, hsame⟩ := h vm hvm
    exact ⟨a, vm', hrun, hvm.of_tables hsame⟩

/-- A computation spares a machine whatever else is true of its result. -/
theorem spares_of_yields {m : Machine α} {Q : α → Vm → Prop} (h : Yields Vm.Untampered m Q)
    (hq : ∀ a vm, Q a vm → vm.Untampered) : Spares m :=
  fun vm a vm' hvm hrun => hq a vm' (h vm a vm' hvm hrun)

/-! ## What is done while a machine is made -/

/-- No entry is a table. -/
def NoTables (es : List (Key × Value)) : Prop := ∀ e ∈ es, ∀ ref, e.2 ≠ .table ref

/-- A new table without a metatable, in a machine that is untampered. -/
theorem yields_newTable (t : Table) (ht : t.metatable = none) :
    Yields Vm.Untampered (Machine.newTable t) fun v vm =>
      ∃ ref, v = .table ref ∧ vm.Untampered ∧ ref ≠ Vm.globals ∧ ref < vm.tables.size ∧
        vm.table ref = t := by
  refine yields_of_run fun vm h => ⟨.table vm.tables.size, { vm with tables := vm.tables.push t },
    rfl, vm.tables.size, rfl, ?_, ?_, ?_, ?_⟩
  · have hold : ∀ ref, ref < vm.tables.size →
        ({ vm with tables := vm.tables.push t } : Vm).table ref = vm.table ref := by
      intro ref href
      unfold Store.table
      dsimp only
      rw [Array.getElem?_push_lt href, Array.getElem?_eq_getElem href]
    have hglobals := hold Vm.globals h.globals
    constructor
    · exact Nat.lt_of_lt_of_le h.globals (by simp)
    · intro ref
      unfold Store.table
      dsimp only
      rw [Array.getElem?_push]
      by_cases href : ref = vm.tables.size
      · rw [if_pos href]
        exact ht
      · rw [if_neg href]
        exact h.plain ref
    · rw [hglobals]
      exact h.xpcall
    · rw [hglobals]
      exact h.pcall
    · intro p hp
      rw [hglobals] at hp
      obtain ⟨hne, hsize, hpreload⟩ := h.package p hp
      refine ⟨hne, ?_, ?_⟩
      · exact Nat.lt_of_lt_of_le hsize (by simp)
      · rwa [hold p hsize]
  · exact Nat.ne_of_gt h.globals
  · simp
  · simp [Store.table]

/-- A new table of entries that are no tables may become a global variable, of any name. -/
theorem spares_openTable (name : Bytes) {entries : Machine (List (Key × Value))}
    (h : Yields Vm.Untampered entries fun es vm => vm.Untampered ∧ NoTables es) :
    Spares (do
      let t ← Machine.newTable (.ofEntries (← entries))
      setGlobal invoke .outside name t) := by
  refine yields_bind_of_fact h fun es hno => ?_
  refine yields_bind (yields_newTable (.ofEntries es) rfl) fun v => ?_
  refine yields_of_run fun vm hvm => ?_
  obtain ⟨ref, rfl, huntampered, hne, hsize, htable⟩ := hvm
  refine ⟨(), _, run_setGlobal_of_plain (huntampered.plain Vm.globals) _ _ _ _, ?_⟩
  refine huntampered.write ⟨fun _ _ _ => nofun, fun _ _ _ => nofun, fun _ _ p hp => ?_,
    fun hglobals => absurd rfl hglobals⟩
  cases hp
  refine ⟨hne, hsize, ?_⟩
  rw [htable]
  rcases Table.get_ofEntries es (.text "preload") with hget | ⟨e, he, hget⟩
  · rw [hget]
    nofun
  · rw [hget]
    exact hno e he Vm.globals

/-- A new function leaves the tables as they are. -/
theorem yields_newFunction (body : FunctionBody) :
    Yields Vm.Untampered (Machine.newFunction body) fun v vm =>
      vm.Untampered ∧ ∃ f, v = .function f :=
  yields_of_run fun _ h => ⟨_, _, rfl, h.of_tables rfl, _, rfl⟩

/-- New functions under their names. -/
theorem yields_newFunctions (fs : List (String × Native)) :
    Yields Vm.Untampered (newFunctions fs) fun es vm => vm.Untampered ∧ NoTables es := by
  induction fs with
  | nil => exact yields_pure fun _ h => ⟨h, nofun⟩
  | cons f rest ih =>
    obtain ⟨name, f⟩ := f
    unfold newFunctions
    refine yields_bind_of_fact (yields_newFunction _) fun v hv => ?_
    obtain ⟨f, rfl⟩ := hv
    refine yields_bind_of_fact ih fun es hes => yields_pure fun vm hvm => ⟨hvm, fun e he => ?_⟩
    rcases List.mem_cons.mp he with rfl | hrest
    · nofun
    · exact hes e hrest

/-- The fields of a table that the host supplies. -/
theorem yields_provisions (fields : List (Bytes × Provision)) :
    Yields Vm.Untampered (provisions fields) fun es vm => vm.Untampered ∧ NoTables es := by
  induction fields with
  | nil => exact yields_pure fun _ h => ⟨h, nofun⟩
  | cons field rest ih =>
    obtain ⟨name, p⟩ := field
    have hvalue : Yields Vm.Untampered (Provision.value p) fun v vm =>
        vm.Untampered ∧ ∀ ref, v ≠ Value.table ref := by
      cases p with
      | text s => exact yields_pure fun _ h => ⟨h, nofun⟩
      | routine => exact yields_of_run fun _ h => ⟨_, _, rfl, h.of_tables rfl, nofun⟩
    unfold provisions
    refine yields_bind_of_fact hvalue fun v hv => ?_
    refine yields_bind_of_fact ih fun es hes => yields_pure fun vm hvm => ⟨hvm, fun e he => ?_⟩
    rcases List.mem_cons.mp he with rfl | hrest
    · exact hv
    · exact hes e hrest

/-- Reading a field of a table gives what stands there. -/
theorem yields_index {P : Vm → Prop} (hP : ∀ vm, P vm → vm.Untampered) (ref : Nat)
    (k : String) :
    Yields P (Machine.index invoke .outside none (.table ref) (.text k)) fun v vm =>
      P vm ∧ (vm.table ref).get (.text k) = v :=
  yields_of_run fun vm h =>
    ⟨_, vm, run_index_of_plain ((hP vm h).plain ref) rfl invoke .outside none, h, rfl⟩

/-- Reading a field of a table spares the machine. -/
theorem spares_index (ref : Nat) (k : String) :
    Spares (Machine.index invoke .outside none (.table ref) (.text k)) :=
  spares_of_yields (yields_index (fun _ h => h) ref k) fun _ _ h => h.1

/-- Setting a field of a table, where that is harmless. -/
theorem spares_setIndex {ref : Nat} {k : String} {v : Value}
    (hv : ∀ vm : Vm, vm.Harmless ref (.text k) v) :
    Spares (Machine.setIndex invoke .outside none (.table ref) (.text k) v) :=
  yields_of_run fun vm h =>
    ⟨(), _, run_setIndex_of_plain (h.plain ref) rfl invoke .outside none v, h.write (hv vm)⟩

/-- A value that is neither a function nor a table may be written anywhere. -/
theorem harmless_of_inert {v : Value} (hfunction : ∀ f, v ≠ .function f)
    (htable : ∀ ref, v ≠ .table ref) (vm : Vm) (ref : Nat) (k : Key) : vm.Harmless ref k v :=
  ⟨fun _ _ => hfunction, fun _ _ => hfunction, fun _ _ p hp => absurd hp (htable p),
    fun _ _ => htable Vm.globals⟩

/-- Any value may be written under a number. -/
theorem harmless_of_number (vm : Vm) (ref : Nat) (i : Int64) (v : Value) :
    vm.Harmless ref (.integer i) v :=
  ⟨fun _ => nofun, fun _ => nofun, fun _ => nofun, fun _ => nofun⟩

/-- A function may be written into any table but that of the global variables. -/
theorem harmless_of_function {ref : Nat} (h : ref ≠ Vm.globals) (vm : Vm) (k : Key)
    (f : Function) : vm.Harmless ref k (.function f) :=
  ⟨fun href => absurd href h, fun href => absurd href h, fun href => absurd href h,
    fun _ _ => nofun⟩

/-! ## Native modules are locked out -/

section

variable {P : Vm → Prop} {ref : Nat}
  (hP : ∀ vm (i : Int64) v, P vm → P (vm.write ref (.integer i) v))

include hP

/-- A value is put under a number. -/
theorem yields_rawSet_number (i : Int64) (v : Value) :
    Yields P (Machine.rawSet ref (.integer i) v) fun _ => P :=
  yields_of_run fun vm h => ⟨(), _, run_rawSet ref _ v vm, hP vm i v h⟩

/-- Values are moved in a list. -/
theorem yields_moveForward_of_unnumbered (count i : Nat) :
    Yields P (moveForward ref count i) fun _ => P := by
  induction count generalizing i with
  | zero => exact yields_pure fun _ h => h
  | succ count ih =>
    have hread : ∀ k, Yields P (Machine.rawGet ref k) fun _ => P :=
      fun k => yields_of_run fun vm h => ⟨_, vm, run_rawGet ref k vm, h⟩
    unfold moveForward
    refine yields_bind (hread _) fun v => ?_
    exact yields_bind (yields_rawSet_number hP _ v) fun _ => ih (i + 1)

/-- A value is taken out of a list. -/
theorem yields_removeAt_of_unnumbered (i : Nat) :
    Yields P (removeAt ref i) fun _ => P := by
  have hread : Yields P (get : Machine Store) fun _ => P :=
    yields_of_run fun vm h => ⟨vm.toStore, vm, run_get vm, h⟩
  unfold removeAt
  refine yields_bind hread fun now => ?_
  dsimp only
  split
  · exact yields_throw _
  · refine yields_bind (yields_moveForward_of_unnumbered hP _ _) fun _ => ?_
    exact yields_rawSet_number hP _ _

/-- The searchers for native modules are taken off a list. What writing under whole numbers of this
list does not concern stays as it is. -/
theorem yields_removeNativeSearchers_of_unnumbered :
    Yields P (removeNativeSearchers ref) fun _ => P := by
  have hread : Yields P (get : Machine Store) fun _ => P :=
    yields_of_run fun vm h => ⟨vm.toStore, vm, run_get vm, h⟩
  have hthird : ∀ now : Store, Yields P
      (if 3 ≤ min (now.table ref).length 4 then removeAt ref 3 else pure ()) fun _ => P := by
    intro now
    split
    · exact yields_removeAt_of_unnumbered hP 3
    · exact yields_pure fun _ h => h
  unfold removeNativeSearchers
  refine yields_bind hread fun now => ?_
  dsimp only
  split
  · exact yields_bind (yields_removeAt_of_unnumbered hP 4) fun _ => hthird now
  · exact hthird now

end

/-- The searchers for native modules are taken off a list in an untampered machine. -/
theorem spares_removeNativeSearchers (ref : Nat) : Spares (removeNativeSearchers ref) :=
  yields_removeNativeSearchers_of_unnumbered
    fun vm i v h => h.write (harmless_of_number vm ref i v)

/-- Native modules are locked out. -/
theorem spares_lockNativeModules (allowed : Bool) : Spares (lockNativeModules allowed) := by
  have hpackage : Spares (getGlobal invoke .outside (textBytes "package")) :=
    spares_index Vm.globals "package"
  have hinert : ∀ (ref : Nat) (k : String) (v : Value), (∀ f, v ≠ .function f) →
      (∀ other, v ≠ .table other) →
      Spares (Machine.setIndex invoke .outside none (.table ref) (.text k) v) :=
    fun ref k v hfunction htable =>
      spares_setIndex fun vm => harmless_of_inert hfunction htable vm ref _
  have hlog : ∀ line, Spares (Machine.emit (.log line)) :=
    fun line => spares_of_run fun _ _ => ⟨(), _, rfl, rfl⟩
  unfold lockNativeModules
  split
  · exact spares_pure ()
  · refine spares_bind hpackage fun package => ?_
    cases package with
    | table ref =>
      refine spares_bind (hinert ref "loadlib" .nil nofun nofun) fun _ => ?_
      refine spares_bind (hinert ref "cpath" (.text "") nofun nofun) fun _ => ?_
      refine spares_bind (spares_index ref "searchers") fun searchers => ?_
      cases searchers with
      | table list => exact spares_bind (spares_removeNativeSearchers list) fun _ => hlog _
      | _ => exact hlog _
    | _ => exact spares_pure ()

end Script

open Script

/-! ## Openers that leave a machine untampered -/

namespace Script.Opener

/-- An opener that does nothing leaves a machine untampered. -/
theorem spares_nothing : Spares (openSupplied invoke .outside .nothing) := by
  rw [openSupplied_nothing]
  exact spares_pure ()

/-- An opener that fails leaves a machine untampered. -/
theorem spares_failure (message : String) :
    Spares (openSupplied invoke .outside (.failure message)) := by
  rw [openSupplied_failure]
  exact Machine.yields_throw _

/-- The table that an opener makes may become a global variable, of any name. -/
theorem spares_table (name : Bytes) (fields : List (Bytes × Provision)) :
    Spares (openSupplied invoke .outside (.table name fields)) := by
  rw [openSupplied_table]
  exact spares_openTable name (yields_provisions fields)

end Script.Opener

namespace Selection

/-- The openers that the host supplies for libraries leave an untampered machine untampered. -/
def Sparing (s : Selection) : Prop :=
  ∀ library opener, s.opener? library = some opener → Spares (openSupplied invoke .outside opener)

/-- Openers that do nothing, fail, or make a table leave an untampered machine untampered. -/
theorem sparing_of_openers {s : Selection}
    (h : ∀ library opener, s.opener? library = some opener →
      opener = .nothing ∨ (∃ message, opener = .failure message) ∨
        ∃ name fields, opener = .table name fields) : s.Sparing := by
  intro library opener hopener
  rcases h library opener hopener with rfl | ⟨message, rfl⟩ | ⟨name, fields, rfl⟩
  · exact Opener.spares_nothing
  · exact Opener.spares_failure message
  · exact Opener.spares_table name fields

/-- A library is opened. -/
theorem spares_openLibrary {s : Selection} (hs : s.Sparing) (library : Library) :
    Spares (s.openLibrary library) := by
  unfold openLibrary
  cases hopener : s.opener? library with
  | some opener => exact hs library opener hopener
  | none =>
    cases library.builtIn with
    | some fs => exact spares_openTable _ (yields_newFunctions fs)
    | none => exact spares_of_run fun _ _ => ⟨(), _, rfl, rfl⟩

/-- All libraries are opened. -/
theorem spares_openEach {s : Selection} (hs : s.Sparing) (libraries : List Library) :
    Spares (s.openEach libraries) := by
  induction libraries with
  | nil => exact spares_pure ()
  | cons library rest ih => exact spares_bind (spares_openLibrary hs library) fun _ => ih

/-- Loaders are put into a table that is not that of the global variables. -/
theorem spares_installEach {ref : Nat} (h : ref ≠ Vm.globals) (ps : List (String × Opener)) :
    Spares (installEach (.table ref) ps) := by
  induction ps with
  | nil => exact spares_pure ()
  | cons p rest ih =>
    obtain ⟨name, opener⟩ := p
    unfold installEach
    refine Machine.yields_bind_of_fact (yields_newFunction _) fun loader hloader => ?_
    obtain ⟨f, rfl⟩ := hloader
    exact spares_bind (spares_setIndex fun vm => harmless_of_function h vm _ f) fun _ => ih

/-- Preloads are installed. -/
theorem spares_installPreloads (s : Selection) : Spares s.installPreloads := by
  have hpackage : Machine.Yields Vm.Untampered
      (tryCatch (getGlobal invoke .outside (textBytes "package")) fun _ => pure .nil)
      fun v vm => vm.Untampered ∧ ∀ p, v = .table p → vm.FitPackage p := by
    refine Machine.yields_of_run fun vm h => ⟨_, vm, ?_, h, fun p hp => h.package p hp⟩
    rw [Machine.run_tryCatch, run_getGlobal_of_plain (h.plain Vm.globals)]
    rfl
  unfold installPreloads
  refine Machine.yields_bind hpackage fun package => ?_
  cases package with
  | table p =>
    refine Machine.yields_bind (yields_index (fun _ h => h.1) p "preload") fun preload => ?_
    cases preload with
    | table q =>
      -- The table of the preloads is the one that was read, so it is not that of the globals.
      intro vm a vm' hvm hrun
      have hq : q ≠ Vm.globals := by
        rintro rfl
        exact (hvm.1.2 p rfl).2.2 hvm.2
      exact spares_installEach hq s.preloads vm a vm' hvm.1.1 hrun
    | _ => exact Machine.yields_pure fun _ h => h.1.1
  | _ => exact Machine.yields_pure fun _ h => h.1

end Selection

namespace Script.Invoker

/-- The functions for protected calls that are taken from an untampered machine are its own. -/
theorem yields_capture : Machine.Yields Vm.Untampered capture fun inv _ => inv.Genuine := by
  have hglobal : ∀ {name : String} {b : Basic},
      (∀ vm : Vm, vm.Untampered → ∀ f, (vm.table Vm.globals).get (.text name) = .function f →
        f.basic? = some b) →
      Machine.Yields Vm.Untampered (globalFunction name) fun f vm =>
        vm.Untampered ∧ f.basic? = some b := by
    intro name b hown
    unfold globalFunction
    refine Machine.yields_bind (yields_index (fun _ h => h) Vm.globals name) fun v => ?_
    cases v with
    | function f => exact Machine.yields_pure fun vm h => ⟨h.1, hown vm h.1 f h.2⟩
    | _ => exact Machine.yields_throw _
  unfold capture
  refine Machine.yields_bind_of_fact (hglobal fun _ h => h.xpcall) fun xpcall hxpcall => ?_
  refine Machine.yields_bind_of_fact (hglobal fun _ h => h.pcall) fun pcall hpcall => ?_
  exact Machine.yields_pure fun _ _ => ⟨hxpcall, hpcall⟩

end Script.Invoker

namespace Document

/-- The routines of a host become global variables. -/
theorem spares_provideRoutines {rs : List (String × HostRoutine)}
    (h : ∀ name ∈ rs.map (·.1), Key.text name ≠ .text "xpcall" ∧ Key.text name ≠ .text "pcall") :
    Spares (provideRoutines rs) := by
  induction rs with
  | nil => exact spares_pure ()
  | cons r rest ih =>
    obtain ⟨name, r⟩ := r
    rw [List.map_cons, List.forall_mem_cons] at h
    unfold provideRoutines
    refine Machine.yields_bind_of_fact (yields_newFunction _) fun v hv => ?_
    obtain ⟨f, rfl⟩ := hv
    refine spares_bind (spares_setIndex fun vm => ?_) fun _ => ih h.2
    exact ⟨fun _ hk => absurd hk h.1.1, fun _ hk => absurd hk h.1.2, fun _ _ => nofun,
      fun _ _ => nofun⟩

/-- A document that runs no script of its own in a new machine leaves it untampered. -/
theorem spares_register {d : Document} (h : d.routines = []) : Spares (Host.register d) := by
  have hload : load (textBytes routinesLabel) [] =
      .ok ⟨chunkId (textBytes routinesLabel), 1, []⟩ := by
    rfl
  have hcalled : ∀ f : Function,
      f.body = .script ⟨chunkId (textBytes routinesLabel), 1, []⟩ →
      Spares (Machine.callValue invoke .outside (.function f) []) := by
    intro f hbody
    refine spares_of_run fun vm _ => ⟨[], vm, ?_, rfl⟩
    rw [Machine.run_callValue_function, invoke_outside, hbody]
    exact Machine.run_pure _ vm
  have hnew : Machine.Yields Vm.Untampered
      (Machine.newFunction (.script ⟨chunkId (textBytes routinesLabel), 1, []⟩)) fun v vm =>
        vm.Untampered ∧ ∃ f : Function, v = .function f ∧
          f.body = .script ⟨chunkId (textBytes routinesLabel), 1, []⟩ :=
    Machine.yields_of_run fun _ hvm => ⟨_, _, rfl, hvm.of_tables rfl, _, rfl, rfl⟩
  have hprovided : Spares (provideRoutines hostRoutines) :=
    spares_provideRoutines (by decide)
  have hregister : (Host.register d : Machine Unit) = d.register := rfl
  rw [hregister]
  unfold register
  refine spares_bind hprovided fun _ => ?_
  rw [h, hload]
  refine Machine.yields_bind_of_fact hnew fun v hv => ?_
  obtain ⟨f, rfl, hbody⟩ := hv
  exact spares_bind (hcalled f hbody) fun _ => spares_pure ()

end Document

namespace Operation

variable {H : Type} [Host H]

/-- The first steps leave a machine untampered, whatever libraries are selected, if the host
and its openers do. -/
theorem spares_firstSteps {host : Option H} {selection : Selection}
    (hhost : ∀ h, host = some h → Spares (Host.register h)) (hopeners : selection.Sparing) :
    Spares (firstSteps host selection) := by
  have hopened : Spares selection.openAll := Selection.spares_openEach hopeners _
  unfold firstSteps
  cases host with
  | none => exact hopened
  | some h => exact spares_bind (hhost h rfl) fun _ => hopened

omit [Host H] in
/-- The last steps take the functions for protected calls of an untampered machine. -/
theorem yields_lastSteps (allowNative : Bool) (selection : Selection) :
    Machine.Yields Vm.Untampered (lastSteps allowNative selection) fun inv _ => inv.Genuine := by
  unfold lastSteps
  refine Machine.yields_bind (spares_lockNativeModules _) fun _ => ?_
  exact Machine.yields_bind selection.spares_installPreloads fun _ => Invoker.yields_capture

/-- A machine that has been made has its own functions for protected calls, whatever libraries and
preloads are selected, if the host and its openers leave it untampered. -/
theorem genuine_prepare {s : Session H} {live : Live}
    (hhost : ∀ h, s.around.host = some h → Spares (Host.register h))
    (hopeners : s.engine.selection.Sparing)
    (hmade : s.answer prepare = .ok live) : live.invoker.Genuine := by
  have hfirst := spares_firstSteps hhost hopeners
  have hlast := yields_lastSteps s.engine.settings.allowNative s.engine.selection
  unfold prepare at hmade
  simp only [Session.answer_bind, Session.answer_get, Session.after_get, Session.answer_runOn]
    at hmade
  -- Both runs must have come to a result, or there would be no machine.
  rcases hfirstRun : Machine.run (orFault (firstSteps s.around.host s.engine.selection))
      (Vm.fresh.among s.around.files) with ⟨_ | (_ | ⟨⟩), vm⟩
  · rw [hfirstRun] at hmade
    cases hmade
  · rw [hfirstRun] at hmade
    cases hmade
  · rw [hfirstRun] at hmade
    simp only [Session.answer_bind, Session.answer_runOn] at hmade
    have hfresh : (Vm.fresh.among s.around.files).Untampered := Vm.untampered_fresh.of_tables rfl
    have hvm : vm.Untampered := hfirst _ _ _ hfresh (Machine.run_of_orFault_ok hfirstRun)
    generalize ((s.after (runOn .fresh (orFault (firstSteps s.around.host
      s.engine.selection)))).after (populateIndex vm.settled)).around.files = files at hmade
    rcases hlastRun : Machine.run (orFault
        (lastSteps s.engine.settings.allowNative s.engine.selection)) (vm.settled.among files) with
      ⟨_ | (_ | invoker), vm'⟩
    · rw [hlastRun] at hmade
      cases hmade
    · rw [hlastRun] at hmade
      cases hmade
    · rw [hlastRun] at hmade
      cases hmade
      have hready : (vm.settled.among files).Untampered := hvm.of_tables rfl
      exact hlast _ _ _ hready (Machine.run_of_orFault_ok hlastRun)

end Operation

end EventScripts
