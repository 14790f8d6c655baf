import EventScripts.Proofs.HostScope
import EventScripts.Proofs.IndexFilling
import EventScripts.Proofs.ListTables

/-!
# From the stocked machine to the open engine

Once the index has been filled, the opening of an engine locks native modules out, installs the
preloads and takes the functions for protected calls; the first source it runs defines `check`. This
is followed here through an untampered machine, in which every access to a field is a plain read or
write. Apart from the lockdown, functions are only added: under the names of preloads, in the
table of the preloads, and `check` among the global variables.
-/

set_option autoImplicit false

namespace EventScripts

namespace Script

open Machine

/-! ## The lockdown -/

namespace Vm

/-- The keys that the lockdown of native modules leaves alone in a machine with this package. -/
def besideLock (package : Nat) (ref : Nat) (k : Key) : Prop :=
  (∀ i, k ≠ .integer i) ∧
    ¬ (ref = package ∧ (k = .text "loadlib" ∨ k = .text "cpath"))

/-- A machine in which native modules are locked out: what has become of the package, and of the
list of searchers, if there was one. -/
structure Locked (vm : Vm) (p : Nat) (vm' : Vm) : Prop where
  agree : vm.Agree (besideLock p) vm'
  tables : ∀ q, (vm.table p).get (.text "searchers") = .table q →
    vm.Agree (fun ref _ => ref ≠ p ∧ ref ≠ q) vm'
  loadlib : (vm'.table p).get (.text "loadlib") = .nil
  cpath : p < vm.tables.size → (vm'.table p).get (.text "cpath") = .text ""
  searchers : ∀ q vs, (vm.table p).get (.text "searchers") = .table q → (vm.table q).Lists vs →
    (vm'.table q).Lists (vs.take 2 ++ vs.drop 4)

end Vm

/-- A list is as it was in a machine that agrees on the whole numbers of the table. -/
theorem Table.Lists.of_agree {vm vm' : Vm} {kept : Nat → Key → Prop} {ref : Nat}
    {vs : List Value} (h : (vm.table ref).Lists vs) (hagree : vm.Agree kept vm')
    (hkept : ∀ i, kept ref (.integer i)) : (vm'.table ref).Lists vs where
  short := h.short
  slots := by
    rw [hagree.slots]
    exact h.slots
  present := h.present
  under i hi := by
    rw [hagree.under ref _ (hkept _)]
    exact h.under i hi

namespace Vm

/-- The machine without `package.loadlib` and with an empty path of native modules. -/
def barred (vm : Vm) (p : Nat) : Vm :=
  (vm.write p (.text "loadlib") .nil).write p (.text "cpath") (.text "")

/-- Only two fields of the package differ in a barred machine. -/
theorem agree_barred (vm : Vm) (p : Nat) :
    vm.Agree (fun ref k => ¬ (ref = p ∧ (k = .text "loadlib" ∨ k = .text "cpath")))
      (vm.barred p) := by
  unfold barred
  refine Agree.trans (.write ?_ vm _) (.write ?_ _ _)
  · exact fun hkept => hkept ⟨rfl, .inl rfl⟩
  · exact fun hkept => hkept ⟨rfl, .inr rfl⟩

/-- A barred package has no function that loads native libraries. -/
theorem get_barred_loadlib (vm : Vm) (p : Nat) :
    ((vm.barred p).table p).get (.text "loadlib") = .nil := by
  have hne : Key.text "cpath" ≠ .text "loadlib" := by decide
  have hleft : ((vm.barred p).table p).get (.text "loadlib") =
      ((vm.write p (.text "loadlib") .nil).table p).get (.text "loadlib") := by
    unfold barred
    exact get_write_of_ne _ (fun _ => hne) _
  rw [hleft]
  rcases vm.get_write p p (.text "loadlib") (.text "loadlib") .nil with ⟨-, -, hget⟩ | hget
  · exact hget
  · by_cases hp : p < vm.tables.size
    · rw [table_write, if_pos ⟨rfl, hp⟩, Table.get_set, if_pos rfl]
    · rw [hget]
      exact not_not.mp fun hne => hp (lt_size_of_get hne)

/-- The path of native modules is empty in a barred package. -/
theorem get_barred_cpath (vm : Vm) {p : Nat} (hp : p < vm.tables.size) :
    ((vm.barred p).table p).get (.text "cpath") = .text "" := by
  unfold barred
  rw [Table.get_eq_under?, under?_write, if_pos ⟨⟨rfl, rfl⟩, by rwa [size_write]⟩]
  rfl

end Vm

/-- The lockdown first bars the package; then it changes the list of searchers, if there is one. -/
theorem run_lockNativeModules {vm : Vm} {p : Nat} (hplain : (vm.table p).metatable = none)
    (hpackage : (vm.table Vm.globals).get (.text "package") = .table p) :
    ∃ line, Machine.run (lockNativeModules false) vm =
      match (vm.table p).get (.text "searchers") with
      | .table q =>
        Machine.run (removeNativeSearchers q >>= fun _ => emit (.log line)) (vm.barred p)
      | _ => Machine.run (emit (.log line)) (vm.barred p) := by
  let vm₁ := vm.write p (.text "loadlib") .nil
  have hread : Machine.run (getGlobal invoke .outside (textBytes "package")) vm =
      (.ok (.table p), vm) :=
    run_index_of_present rfl hpackage (by simp) invoke .outside none
  have hplain₁ : (vm₁.table p).metatable = none :=
    (Vm.metatable_write vm p p _ _).trans hplain
  have hplain₂ : ((vm.barred p).table p).metatable = none :=
    (Vm.metatable_write vm₁ p p _ _).trans hplain₁
  have hloadlib : Machine.run (Machine.setIndex invoke .outside none (.table p)
      (.text "loadlib") .nil) vm = (.ok (), vm₁) :=
    run_setIndex_of_plain hplain rfl invoke .outside none .nil
  have hcpath : Machine.run (Machine.setIndex invoke .outside none (.table p)
      (.text "cpath") (.text "")) vm₁ = (.ok (), vm.barred p) :=
    run_setIndex_of_plain hplain₁ rfl invoke .outside none (.text "")
  have hsame : ((vm.barred p).table p).get (.text "searchers") =
      (vm.table p).get (.text "searchers") :=
    (vm.agree_barred p).get fun hwritten => absurd hwritten.2 (by decide)
  have hsearchers : Machine.run (Machine.index invoke .outside none (.table p)
      (.text "searchers")) (vm.barred p) =
        (.ok ((vm.table p).get (.text "searchers")), vm.barred p) := by
    rw [← hsame]
    exact run_index_of_plain hplain₂ rfl invoke .outside none
  refine ⟨.debug "[scripting] native module loading disabled", ?_⟩
  unfold lockNativeModules
  rw [if_neg Bool.false_ne_true, run_bind_of_ok hread]
  dsimp only
  rw [run_bind_of_ok hloadlib, run_bind_of_ok hcpath, run_bind_of_ok hsearchers]
  cases (vm.table p).get (.text "searchers") <;> rfl

/-- The lockdown does what it is said to do, to the table that is the package at that time. -/
theorem locked_of_run {vm vm' : Vm} {p : Nat} {u : Unit} (hplain : (vm.table p).metatable = none)
    (hpackage : (vm.table Vm.globals).get (.text "package") = .table p)
    (hrun : Machine.run (lockNativeModules false) vm = (.ok u, vm')) : vm.Locked p vm' := by
  obtain ⟨line, hlock⟩ := run_lockNativeModules hplain hpackage
  have hemit : ∀ kept : Nat → Key → Prop, Yields ((vm.barred p).Agree kept)
      (emit (.log line)) fun _ => (vm.barred p).Agree kept :=
    fun kept => yields_of_run fun now hnow => ⟨(), _, rfl, hnow.trans (.of_tables rfl)⟩
  -- The list is changed under whole numbers only, and no other table is.
  have hrest : (vm.barred p).Agree (fun _ k => ∀ i, k ≠ .integer i) vm' ∧
      ∀ q, (vm.table p).get (.text "searchers") = .table q →
        (vm.barred p).Agree (fun ref _ => ref ≠ q) vm' ∧
          ∀ vs, (vm.table q).Lists vs → (vm'.table q).Lists (vs.take 2 ++ vs.drop 4) := by
    rw [hlock] at hrun
    cases hlist : (vm.table p).get (.text "searchers") with
    | table q =>
      rw [hlist] at hrun
      dsimp only at hrun
      have hspared : ∀ kept : Nat → Key → Prop, (∀ i, ¬ kept q (.integer i)) →
          (vm.barred p).Agree kept vm' := by
        intro kept hkept
        refine yields_bind (yields_removeNativeSearchers_of_unnumbered ?_)
          (fun _ => hemit kept) _ _ _ (.refl _) hrun
        exact fun now i v hnow => hnow.trans (.write (hkept i) now v)
      let named : Nat → Key → Prop := fun _ k => ∀ i, k ≠ .integer i
      have hnamed : ∀ ref i, ¬ named ref (.integer i) := fun _ i h => h i rfl
      refine ⟨hspared named (hnamed q), ?_⟩
      intro q' hq
      cases hq
      refine ⟨hspared _ fun _ hne => hne rfl, fun vs hlists => ?_⟩
      have hbarred : ((vm.barred p).table q).Lists vs :=
        hlists.of_agree (vm.agree_barred p) fun i hwritten => by
          rcases hwritten.2 with h | h <;> cases h
      have hchanged := yields_removeNativeSearchers (vm.barred p) (hnamed q) vs
      have hshown : Yields (fun now => (vm.barred p).Agree named now ∧
          (now.table q).Lists (vs.take 2 ++ vs.drop 4)) (emit (.log line))
            fun _ now => (now.table q).Lists (vs.take 2 ++ vs.drop 4) :=
        yields_of_run fun now hnow => ⟨(), _, rfl, hnow.2⟩
      exact yields_bind hchanged (fun _ => hshown) _ _ _ ⟨.refl _, hbarred⟩ hrun
    | _ =>
      rw [hlist] at hrun
      exact ⟨hemit _ _ _ _ (.refl _) hrun, nofun⟩
  obtain ⟨hagree, hsearchers⟩ := hrest
  have htext : ∀ name i, Key.text name ≠ .integer i := fun _ _ => nofun
  constructor
  · refine Vm.Agree.trans ((vm.agree_barred p).mono ?_) (hagree.mono ?_)
    · exact fun ref k hk => hk.2
    · exact fun ref k hk => hk.1
  · intro q hq
    refine Vm.Agree.trans ((vm.agree_barred p).mono ?_) ((hsearchers q hq).1.mono ?_)
    · exact fun ref k hk hwritten => hk.1 hwritten.1
    · exact fun ref k hk => hk.2
  · rw [hagree.get (htext "loadlib")]
    exact vm.get_barred_loadlib p
  · intro hp
    rw [hagree.get (htext "cpath")]
    exact vm.get_barred_cpath hp
  · exact fun q vs hq => (hsearchers q hq).2 vs

/-- Without a package there is nothing to lock. -/
theorem eq_of_lockNativeModules {vm vm' : Vm} {u : Unit} (hplain : vm.Plain)
    (hpackage : ∀ p, (vm.table Vm.globals).get (.text "package") ≠ .table p)
    (hrun : Machine.run (lockNativeModules false) vm = (.ok u, vm')) : vm' = vm := by
  have hread : Machine.run (getGlobal invoke .outside (textBytes "package")) vm =
      (.ok ((vm.table Vm.globals).get (.text "package")), vm) :=
    run_getGlobal_of_plain (hplain Vm.globals) _ _ _
  unfold lockNativeModules at hrun
  rw [if_neg Bool.false_ne_true, run_bind_of_ok hread] at hrun
  cases hvalue : (vm.table Vm.globals).get (.text "package") with
  | table p => exact absurd hvalue (hpackage p)
  | _ =>
    rw [hvalue] at hrun
    cases hrun
    rfl

/-- The fields that the lockdown strips, if native modules are not allowed. -/
def Vm.Strips (allowNative : Bool) (vm : Vm) (ref : Nat) (k : Key) : Prop :=
  allowNative = false ∧ (vm.table Vm.globals).get (.text "package") = .table ref ∧
    (k = .text "loadlib" ∨ k = .text "cpath")

/-- Whether native modules are allowed or not, all other fields with a name stay as they are. -/
theorem agree_of_lockNativeModules {allowNative : Bool} {vm vm' : Vm} {u : Unit}
    (hplain : vm.Plain) (hrun : Machine.run (lockNativeModules allowNative) vm = (.ok u, vm')) :
    vm.Agree (fun ref k => (∀ i, k ≠ .integer i) ∧ ¬ vm.Strips allowNative ref k) vm' := by
  cases allowNative with
  | true =>
    cases hrun
    exact .refl vm
  | false =>
    cases hvalue : (vm.table Vm.globals).get (.text "package") with
    | table p =>
      refine (locked_of_run (hplain p) hvalue hrun).agree.mono
        fun ref k hk => ⟨hk.1, fun hstrips => ?_⟩
      obtain ⟨rfl, hfield⟩ := hstrips
      exact hk.2 ⟨rfl, hvalue, hfield⟩
    | _ =>
      rw [eq_of_lockNativeModules hplain (fun p hp => nomatch hvalue.symm.trans hp) hrun]
      exact .refl vm

/-! ## Functions are added -/

namespace Vm

/-- Machines that agree on the keys that are kept, and of which the second has a function wherever
the first one has one. -/
structure Supplies (kept : Nat → Key → Prop) (vm vm' : Vm) : Prop where
  agree : vm.Agree kept vm'
  functions : ∀ ref k, Names.isFunction ((vm.table ref).get k) = true →
    Names.isFunction ((vm'.table ref).get k) = true

variable {kept : Nat → Key → Prop} {vm vm' vm'' : Vm}

/-- What is supplied in two steps is supplied. -/
theorem Supplies.trans (h : vm.Supplies kept vm') (h' : vm'.Supplies kept vm'') :
    vm.Supplies kept vm'' :=
  ⟨h.agree.trans h'.agree, fun ref k hf => h'.functions ref k (h.functions ref k hf)⟩

/-- A machine with the same tables is supplied with nothing. -/
theorem Supplies.of_tables (h : vm'.tables = vm.tables) : vm.Supplies kept vm' := by
  refine ⟨.of_tables h, fun ref k hf => ?_⟩
  unfold Store.table at hf ⊢
  rwa [h]

/-- A function can be written wherever nothing is to be kept. -/
theorem Supplies.write {ref : Nat} {k : Key} (h : ¬ kept ref k) (vm : Vm) (f : Function) :
    vm.Supplies kept (vm.write ref k (.function f)) := by
  refine ⟨.write h vm _, fun other l hf => ?_⟩
  rcases vm.get_write ref other k l (.function f) with ⟨-, -, hget⟩ | hget
  · rw [hget]
    rfl
  · rwa [hget]

/-- The table of preloads that the package names. -/
def preloadTable? (vm : Vm) : Option Nat :=
  match (vm.table globals).get (.text "package") with
  | .table p => match (vm.table p).get (.text "preload") with
    | .table q => some q
    | _ => none
  | _ => none

/-- The table of preloads is the same in machines that agree on the fields that lead to it. -/
theorem Agree.preloadTable?_eq (h : vm.Agree kept vm')
    (hpackage : kept globals (.text "package")) (hpreload : ∀ ref, kept ref (.text "preload")) :
    vm'.preloadTable? = vm.preloadTable? := by
  unfold preloadTable?
  rw [h.get hpackage]
  cases (vm.table globals).get (.text "package") with
  | table p =>
    dsimp only
    rw [h.get (hpreload p)]
  | _ => rfl

/-- The lockdown leaves the table of preloads where it is. -/
theorem preloadTable?_of_lockNativeModules {allowNative : Bool} {u : Unit} (hplain : vm.Plain)
    (hrun : Machine.run (lockNativeModules allowNative) vm = (.ok u, vm')) :
    vm'.preloadTable? = vm.preloadTable? := by
  refine (agree_of_lockNativeModules hplain hrun).preloadTable?_eq ?_ fun ref => ?_
  · exact ⟨fun _ => nofun, fun hstrips => absurd hstrips.2.2 (by decide)⟩
  · exact ⟨fun _ => nofun, fun hstrips => absurd hstrips.2.2 (by decide)⟩

/-- The keys under which no function is added: all numbers, and all texts outside the table of
preloads but for `check` among the global variables. -/
def besideSupplies (preloads : Option Nat) (ref : Nat) (k : Key) : Prop :=
  (∃ i, k = .integer i) ∨ (preloads ≠ some ref ∧ ¬ (ref = globals ∧ k = .text "check"))

end Vm

/-- Loaders are put into a table. -/
theorem supplies_installEach {kept : Nat → Key → Prop} {vm : Vm} {q : Nat} (hplain : vm.Plain)
    (hkept : ∀ name, ¬ kept q (.text name)) (ps : List (String × Opener)) :
    Yields (vm.Supplies kept) (Selection.installEach (.table q) ps) fun _ => vm.Supplies kept := by
  induction ps with
  | nil => exact yields_pure fun _ h => h
  | cons p rest ih =>
    obtain ⟨name, opener⟩ := p
    have hnew : Yields (vm.Supplies kept)
        (newFunction (.native (.loader (textBytes name) opener))) fun v now =>
          vm.Supplies kept now ∧ ∃ f, v = .function f :=
      yields_of_run fun now hnow => ⟨_, _, rfl, hnow.trans (.of_tables rfl), _, rfl⟩
    unfold Selection.installEach
    refine yields_bind_of_fact hnew fun loader hloader => ?_
    obtain ⟨f, rfl⟩ := hloader
    have hset : Yields (vm.Supplies kept)
        (setIndex invoke .outside none (.table q) (.text name) (.function f)) fun _ =>
          vm.Supplies kept :=
      yields_of_run fun now hnow =>
        ⟨(), _, run_setIndex_of_plain (hnow.agree.plain hplain q) rfl invoke .outside none _,
          hnow.trans (.write (hkept name) now f)⟩
    exact yields_bind hset fun _ => ih

/-- The preloads go into the table of preloads. -/
theorem supplies_of_installPreloads {s : Selection} {vm vm' : Vm} {u : Unit} (hplain : vm.Plain)
    (hrun : Machine.run s.installPreloads vm = (.ok u, vm')) :
    vm.Supplies (Vm.besideSupplies vm.preloadTable?) vm' := by
  have hpackage : Machine.run
      (tryCatch (getGlobal invoke .outside (textBytes "package")) fun _ => pure .nil) vm =
        (.ok ((vm.table Vm.globals).get (.text "package")), vm) := by
    rw [run_tryCatch, run_getGlobal_of_plain (hplain Vm.globals)]
    rfl
  unfold Selection.installPreloads at hrun
  rw [run_bind_of_ok hpackage] at hrun
  cases hp : (vm.table Vm.globals).get (.text "package") with
  | table p =>
    have hpreload : Machine.run (index invoke .outside none (.table p) (.text "preload")) vm =
        (.ok ((vm.table p).get (.text "preload")), vm) :=
      run_index_of_plain (hplain p) rfl invoke .outside none
    rw [hp] at hrun
    dsimp only at hrun
    rw [run_bind_of_ok hpreload] at hrun
    cases hq : (vm.table p).get (.text "preload") with
    | table q =>
      rw [hq] at hrun
      have hsome : vm.preloadTable? = some q := by
        unfold Vm.preloadTable?
        rw [hp]
        dsimp only
        rw [hq]
      refine supplies_installEach hplain (fun name hkept => ?_) s.preloads vm u vm'
        (.of_tables rfl) hrun
      rcases hkept with ⟨i, hi⟩ | hkept
      · cases hi
      · exact hkept.1 hsome
    | _ =>
      rw [hq] at hrun
      cases hrun
      exact .of_tables rfl
  | _ =>
    rw [hp] at hrun
    cases hrun
    exact .of_tables rfl

/-- Taking the functions for protected calls changes nothing. -/
theorem eq_of_capture {vm vm' : Vm} {inv : Invoker} (hplain : vm.Plain)
    (hrun : Machine.run Invoker.capture vm = (.ok inv, vm')) : vm' = vm := by
  have hglobal : ∀ name, Yields (· = vm) (Invoker.globalFunction name) fun _ => (· = vm) := by
    intro name
    have hread : Yields (· = vm) (getGlobal invoke .outside (textBytes name)) fun _ => (· = vm) :=
      yields_of_run fun now hnow => by
        subst hnow
        exact ⟨_, now, run_getGlobal_of_plain (hplain Vm.globals) _ _ _, rfl⟩
    unfold Invoker.globalFunction
    refine yields_bind hread fun v => ?_
    cases v with
    | function f => exact yields_pure fun _ h => h
    | _ => exact yields_throw _
  have hboth : Yields (· = vm) Invoker.capture fun _ => (· = vm) := by
    unfold Invoker.capture
    refine yields_bind (hglobal "xpcall") fun xpcall => ?_
    exact yields_bind (hglobal "pcall") fun pcall => yields_pure fun _ h => h
  exact hboth vm inv vm' rfl hrun

/-! ## Lookups in plain machines -/

namespace Vm

variable {vm : Vm}

/-- A field of a table without a metatable is what stands there. -/
theorem field_of_plain {ref : Nat} (h : (vm.table ref).metatable = none) (k : Value) (fuel : Nat) :
    vm.field k (fuel + 1) (.table ref) = some (vm.entry ref k) := by
  unfold Vm.field
  dsimp only
  cases hentry : vm.entry ref k with
  | nil => rw [provides_of_plain h]
  | _ => rfl

/-- In a machine without metatables a field of a table is what stands there. -/
theorem Plain.field (h : vm.Plain) (k : Value) (fuel ref : Nat) :
    vm.field k (fuel + 1) (.table ref) = some (vm.entry ref k) :=
  field_of_plain (h ref) k fuel

/-- No lookup asks a function. -/
theorem Plain.path_ne_none (h : vm.Plain) (parts : List (List Char)) (v : Value) :
    vm.path v parts ≠ none := by
  induction parts generalizing v with
  | nil => exact Option.some_ne_none (some v)
  | cons part parts ih =>
    unfold path
    cases v with
    | table ref =>
      dsimp only
      by_cases hempty : part.isEmpty = true
      · rw [if_pos hempty]
        exact Option.some_ne_none _
      · rw [if_neg hempty, show chainLimit = 1999 + 1 from rfl, h.field]
        exact ih _
    | _ => exact Option.some_ne_none _

/-- No lookup of a name asks a function. -/
theorem Plain.peek_ne_none (h : vm.Plain) (name : String) : vm.peek name ≠ none :=
  h.path_ne_none _ _

end Vm

/-! ## The first source -/

/-- The code of the source that defines `check`. -/
def checkCode : Code := ⟨chunkId (textBytes Check.label), 1, Check.source⟩

/-- The source that defines the function loads. -/
theorem load_check : load (textBytes Check.label) Check.source = .ok checkCode := by
  rfl

/-- The code of the function that the source defines. -/
def checkFunction : Code :=
  ⟨chunkId (textBytes Check.label), 3,
    [.when (.differ (.parameter 0) (Check.globalField "error_code" "eOK")) [Check.raise]]⟩

/-- The source defines a global function and ends without an error. -/
theorem run_checkCode {vm : Vm} (hplain : vm.Plain) (id : Nat) :
    ∃ (f : Function) (vm' : Vm), f.body = .script checkFunction ∧
      Machine.run (protectedRun ⟨id, .script checkCode⟩ []) vm = (.ok [], vm') ∧
        vm'.tables = (vm.write Vm.globals (.text "check") (.function f)).tables := by
  have hbody : protectedRun ⟨id, .script checkCode⟩ [] =
      checkCode.run (invokeTo 998) Site.outside.inner [] := by
    rfl
  let next : Vm := { vm with nextId := vm.nextId + 1 }
  have hnew : ∀ body, Machine.run (newFunction body) vm =
      (.ok (.function ⟨vm.nextId, body⟩), next) :=
    fun _ => rfl
  have hnext : (next.table Vm.globals).metatable = none := hplain Vm.globals
  have hset : ∀ (site : Site) (v : Value),
      Machine.run (setIndex (invokeTo 998) site none (.table Vm.globals)
        (.string (textBytes "check")) v) next =
          (.ok (), next.write Vm.globals (.text "check") v) :=
    fun site v => run_setIndex_of_plain hnext rfl _ site none v
  rw [hbody]
  unfold Code.run checkCode Check.source
  simp only [runSteps, Step.take, Expr.values, run_bind, run_pure, hnew, Value.head, hset]
  exact ⟨_, _, rfl, rfl, rfl⟩

/-- The steps after the lockdown only add functions, and leave the machine untampered. -/
theorem supplies_of_lastSteps {allowNative : Bool} {selection : Selection} {vm vm' : Vm}
    {inv : Invoker} (h : vm.Untampered)
    (hrun : Machine.run (Operation.lastSteps allowNative selection) vm = (.ok inv, vm')) :
    ∃ locked, Machine.run (lockNativeModules allowNative) vm = (.ok (), locked) ∧
      vm'.Untampered ∧ locked.Supplies (Vm.besideSupplies locked.preloadTable?) vm' := by
  unfold Operation.lastSteps at hrun
  rw [run_bind] at hrun
  rcases hlock : Machine.run (lockNativeModules allowNative) vm with ⟨e | ⟨⟩, locked⟩
  · rw [hlock] at hrun
    cases hrun
  rw [hlock] at hrun
  dsimp only at hrun
  rw [run_bind] at hrun
  have hlocked : locked.Untampered := spares_lockNativeModules allowNative _ _ _ h hlock
  rcases hinstall : Machine.run selection.installPreloads locked with ⟨e | ⟨⟩, installed⟩
  · rw [hinstall] at hrun
    cases hrun
  rw [hinstall] at hrun
  have hinstalled : installed.Untampered := selection.spares_installPreloads _ _ _ hlocked hinstall
  have hcaptured : vm' = installed := eq_of_capture hinstalled.plain hrun
  rw [hcaptured]
  exact ⟨locked, rfl, hinstalled, supplies_of_installPreloads hlocked.plain hinstall⟩

end Script

namespace Operation

open Script

variable {H : Type} [Host H]

/-- Without a sandbox script, the machine of an engine that has just got it is the one that was
made, with the function `check`. -/
theorem live_install {s : Session H} {live : Live} (huntampered : live.vm.Untampered)
    (hgenuine : live.invoker.Genuine) (hsandbox : s.engine.settings.sandbox = none) :
    ∃ now f, f.body = .script checkFunction ∧ (s.after (install live)).engine.live = some now ∧
      now.vm.tables = (live.vm.write Vm.globals (.text "check") (.function f)).tables := by
  let begun : Session H := s.mounted live
  have hopen : begun.engine.live = some live := rfl
  let vm₁ : Vm := { live.vm.among s.around.files with nextId := live.vm.nextId + 1 }
  have hplain₁ : vm₁.Plain := huntampered.plain
  obtain ⟨f, vm₂, hbody, hcheck, htables⟩ := run_checkCode hplain₁ live.vm.nextId
  -- The source is called in the machine as it was made, for no lookup asks a function there.
  have hcalled : Machine.run (live.invoker.call ⟨live.vm.nextId, .script checkCode⟩ []) vm₁ =
      (.ok (.ok []), vm₂) := by
    refine (Invoker.run_call_of_genuine hgenuine _ [] vm₁).1 [] vm₂ ?_
    rw [Invoker.begun_of_peek (hplain₁.peek_ne_none _)]
    exact hcheck
  have hlive : ((begun.after (execute Check.source Check.label))).engine.live =
      some { live with vm := vm₂.settled } := by
    let counted : Session H :=
      begun.after (count fun c => { c with protectedCalls := c.protectedCalls + 1 })
    obtain ⟨call, hcode, hmade⟩ := exists_callCode_eq (H := H) live checkCode
    have hcounted : counted.engine.live = some live := rfl
    have hrun : Machine.run call (live.vm.among counted.around.files) = (.ok (.ok []), vm₂) :=
      (hmade _).trans hcalled
    have hafter : (counted.after (callCode live checkCode)).engine.live =
        some { live with vm := vm₂.settled } := by
      rw [hcode, engine_runProtected hcounted call, hrun]
    have hanswer : counted.answer (callCode live checkCode) = .ok [] := by
      rw [hcode]
      exact answer_runProtected hrun
    have hsource : begun.after (execute Check.source Check.label) =
        (counted.after (callCode live checkCode)).after
          (concludeSource Check.label (counted.answer (callCode live checkCode))) := by
      rw [(Session.execute_of_open hopen _ _).2, runSource_of_ok load_check, Session.after_bind,
        Session.after_bind]
    rw [hsource, hanswer]
    exact hafter
  have hsettings : (begun.after (execute Check.source Check.label)).engine.settings.sandbox =
      none := by
    have hkept := keeps_footing_execute (H := H) Check.source Check.label begun
    have hsame := congrArg (fun footing => footing.standing.settings.sandbox) hkept
    exact hsame.trans hsandbox
  have hsandboxed : ∀ t : Session H, t.engine.settings.sandbox = none →
      t.after runSandbox = t := by
    intro t ht
    unfold runSandbox
    rw [Session.after_bind, Session.after_get, Session.answer_get]
    dsimp only
    rw [ht]
    rfl
  refine ⟨{ live with vm := vm₂.settled }, f, hbody, ?_, htables⟩
  rw [Session.after_install, hsandboxed _ hsettings, hlive]

/-- Without a sandbox script, an engine that opens has a machine that comes from the stocked one by
the lockdown and by adding functions. -/
theorem supplies_of_openEngine {s : Session H} {stocked : Vm}
    (hclosed : s.engine.isOpen = false) (hsandbox : s.engine.settings.sandbox = none)
    (hstocked : s.stocked? = some stocked) (huntampered : stocked.Untampered)
    (hopened : s.answer openEngine = .ok ()) :
    ∃ locked now, (s.after openEngine).engine.live = some now ∧
      Machine.run (lockNativeModules s.engine.settings.allowNative)
        (stocked.among stocked.files) = (.ok (), locked) ∧
      locked.Supplies (Vm.besideSupplies locked.preloadTable?) now.vm := by
  cases hprepare : s.answer prepare with
  | error e =>
    rw [(openEngine_of_error hclosed hprepare).2] at hopened
    cases hopened
  | ok live =>
    obtain ⟨stocked', vm', hsame, hrun, hvm⟩ := prepare_eq_ok hprepare
    rw [hstocked] at hsame
    cases hsame
    have hsettled : (stocked.among stocked.files).Untampered := huntampered.of_tables rfl
    have hgenuine : live.invoker.Genuine := yields_lastSteps _ _ _ _ _ hsettled hrun
    obtain ⟨locked, hlock, hmade, hsupplies⟩ := supplies_of_lastSteps hsettled hrun
    have hengine : (s.after prepare).engine = s.engine := keeps_engine_prepare s
    have hsandbox' : (s.after prepare).engine.settings.sandbox = none := by
      rw [hengine]
      exact hsandbox
    have hlive : live.vm.Untampered := by
      rw [hvm]
      exact hmade.of_tables rfl
    obtain ⟨now, f, -, hnow, htables⟩ := live_install hlive hgenuine hsandbox'
    refine ⟨locked, now, ?_, hlock, ?_⟩
    · rw [(openEngine_of_ok hclosed hprepare).1]
      exact hnow
    · refine hsupplies.trans ?_
      have hcheck : ¬ Vm.besideSupplies locked.preloadTable? Vm.globals (.text "check") := by
        rintro (⟨i, hi⟩ | hkept)
        · cases hi
        · exact hkept.2 ⟨rfl, rfl⟩
      refine (Vm.Supplies.write hcheck vm' f).trans (.of_tables ?_)
      rw [htables, hvm]
      rfl

end Operation

end EventScripts
