import EventScripts.Proofs.NativeCalls
import EventScripts.Proofs.Openers
import EventScripts.Proofs.TableWrites

/-!
# Preloads are opened on request

A preload is installed as a loader under its name. Nothing of its opener runs then: `require` calls
the loader when it is asked for a module that is not known yet, and keeps what the opener left in
the global variable of the name. From then on `require` gives this module and runs nothing, unless
the opener failed or left false.

The life of a machine is followed here for one name, from request to request. What happens between
requests is arbitrary, as long as it leaves alone what `require` reads for this name.
-/

set_option autoImplicit false

namespace EventScripts

namespace Script

/-! ## What a request reads -/

/-- What `require` reads of a machine for a name: the list of searchers, the first of them, the
loader under the name, and what is known as its module. -/
structure ModuleState where
  searchers : Value
  first : Value
  loader : Value
  known : Value

/-- What `require` reads of this machine for a name. -/
def Vm.moduleState (vm : Vm) (name : Bytes) : ModuleState where
  searchers := (vm.table Vm.package).get (.text "searchers")
  first := match (vm.table Vm.package).get (.text "searchers") with
    | .table q => (vm.table q).get (.integer 1)
    | _ => .nil
  loader := (vm.table Vm.preload).get (.string name)
  known := (vm.table Vm.loaded).get (.string name)

/-- The first searcher asks the preloads, among which an opener is installed under the name. -/
structure ModuleState.Preloads (m : ModuleState) (name : Bytes) (opener : Opener) : Prop where
  searchers : ∃ q, m.searchers = .table q
  first : ∃ f : Function, m.first = .function f ∧ f.body = .native (.basic .searchPreload)
  loader : ∃ f : Function, m.loader = .function f ∧ f.body = .native (.loader name opener)

/-- A machine with searchers has the table `package`. -/
theorem Vm.package_lt_size {vm : Vm} {name : Bytes} {q : Nat}
    (h : (vm.moduleState name).searchers = .table q) : Vm.package < vm.tables.size := by
  refine lt_size_of_get (k := .text "searchers") ?_
  have hsearchers : (vm.table Vm.package).get (.text "searchers") = .table q := h
  rw [hsearchers]
  nofun

/-- The first searcher stands in the list of searchers. -/
theorem Vm.first_eq {vm : Vm} {name : Bytes} {q : Nat}
    (h : (vm.moduleState name).searchers = .table q) :
    (vm.moduleState name).first = (vm.table q).get (.integer 1) := by
  unfold moduleState at h ⊢
  dsimp only at h ⊢
  rw [h]

/-- The first searcher is read out of the list of searchers. -/
theorem Vm.run_firstSearcher {vm : Vm} {name : Bytes} {q : Nat} {f : Function}
    (hq : (vm.moduleState name).searchers = .table q)
    (hf : (vm.moduleState name).first = .function f) :
    Machine.run (Machine.rawGet q (.integer (Int64.ofNat 1))) vm = (.ok (.function f), vm) := by
  rw [Vm.first_eq hq] at hf
  exact congrArg (fun v => (Except.ok v, vm)) hf

/-- A value that does not count as true is nil or false. -/
theorem Value.eq_nil_or_false {v : Value} (h : ¬ v.truthy = true) :
    v = .nil ∨ v = .boolean false := by
  cases v with
  | nil => exact .inl rfl
  | boolean b =>
    cases b with
    | false => exact .inr rfl
    | true => exact absurd rfl h
  | _ => exact absurd rfl h

/-- What a loader runs: the opener, and then it reads the global variable of the name. -/
def openAndRead (call : Caller) (site : Site) (name : Bytes) (opener : Opener) : Machine Value := do
  openSupplied call site opener
  getGlobal call site name

/-- A call of `require` for a name, where there is room for the calls that it makes. -/
structure RequireCall (name : Bytes) where
  depth : Nat
  site : Site
  function : Function
  args : List Value
  genuine : function.body = .native (.basic .require)
  named : (args[0]?).bind Machine.rawText? = some name
  room : HasRoom site.nested
  inner : HasRoom site.inner.nested

namespace RequireCall

variable {name : Bytes}

/-- The reply to a request, and the machine after it. -/
def reply (c : RequireCall name) (vm : Vm) : Except Value (List Value) × Vm :=
  Machine.run (invokeTo (c.depth + 2) c.site c.function c.args) vm

/-- The opener that would run at a request leaves alone what `require` reads for the name. -/
def Spares (c : RequireCall name) (opener : Opener) (vm : Vm) : Prop :=
  (Machine.run (runLoader (invokeTo c.depth) c.site.inner name opener) vm).2.moduleState name =
    vm.moduleState name

/-- The opener runs at a request and makes the module: what it leaves in the global variable of the
name, true if that is nil. What is false was left by it before. -/
inductive Opens (c : RequireCall name) (opener : Opener) (vm : Vm) :
    Except Value (List Value) → Vm → Prop
  | found {v : Value} {vm' : Vm} :
      Machine.run (openAndRead (invokeTo c.depth) c.site.inner.inner name opener) vm =
        (.ok v, vm') → v ≠ .nil →
      Opens c opener vm (.ok [v, .text ":preload:"]) (vm'.write Vm.loaded (.string name) v)
  | missing {vm' : Vm} :
      Machine.run (openAndRead (invokeTo c.depth) c.site.inner.inner name opener) vm =
        (.ok .nil, vm') → (vm.moduleState name).known = .nil →
      Opens c opener vm (.ok [.boolean true, .text ":preload:"])
        (vm'.write Vm.loaded (.string name) (.boolean true))
  | stillFalse {vm' : Vm} :
      Machine.run (openAndRead (invokeTo c.depth) c.site.inner.inner name opener) vm =
        (.ok .nil, vm') → (vm.moduleState name).known = .boolean false →
      Opens c opener vm (.ok [.boolean false, .text ":preload:"]) vm'
  | raised {e : Value} {cause : Fault} {vm' vm'' : Vm} :
      Machine.run (openAndRead (invokeTo c.depth) c.site.inner.inner name opener) vm =
        (.error e, vm') →
      Machine.run (faultOf (invokeTo c.depth) c.site.inner.inner e) vm' = (.ok cause, vm'') →
      Opens c opener vm (.error (.fault (.wrapped traceMark cause))) vm''

end RequireCall

/-! ## One request -/

section

variable {name : Bytes} {opener : Opener} {vm : Vm} {call : Caller} {site : Site}

/-- A loader gives what stands in the global variable after the opener. -/
theorem run_runLoader_of_ok {v : Value} {vm' : Vm}
    (h : Machine.run (openAndRead call site.inner name opener) vm = (.ok v, vm')) :
    Machine.run (runLoader call site name opener) vm = (.ok [v], vm') := by
  have hout : Machine.run (Machine.outcome (openAndRead call site.inner name opener)) vm =
      (.ok (.ok v), vm') := by
    rw [Machine.run_outcome, h]
  exact Machine.run_bind_of_ok hout _

/-- The error of an opener comes out of the loader as a fault. -/
theorem run_runLoader_of_error {e : Value} {cause : Fault} {vm' vm'' : Vm}
    (h : Machine.run (openAndRead call site.inner name opener) vm = (.error e, vm'))
    (hcause : Machine.run (faultOf call site.inner e) vm' = (.ok cause, vm'')) :
    Machine.run (runLoader call site name opener) vm =
      (.error (.fault (.wrapped traceMark cause)), vm'') := by
  have hout : Machine.run (Machine.outcome (openAndRead call site.inner name opener)) vm =
      (.ok (.error e), vm') := by
    rw [Machine.run_outcome, h]
  refine (Machine.run_bind_of_ok hout _).trans ?_
  exact (Machine.run_bind_of_ok hcause _).trans (Machine.run_throw _ vm'')

/-- A module that is known is given, and nothing runs. -/
theorem run_requireModule_of_known {args : List Value}
    (hname : (args[0]?).bind Machine.rawText? = some name)
    (h : (vm.moduleState name).known.truthy = true) :
    Machine.run (requireModule call site args) vm = (.ok [(vm.moduleState name).known], vm) := by
  have hargument : Machine.run (textArgument site "require" 1 args) vm = (.ok name, vm) := by
    unfold textArgument
    rw [hname]
    rfl
  have hread : Machine.run (Machine.rawGet Vm.loaded (.string name)) vm =
      (.ok (vm.moduleState name).known, vm) := rfl
  unfold requireModule
  rw [Machine.run_bind_of_ok hargument, Machine.run_bind_of_ok hread, if_pos h]
  rfl

/-- What `require` does with the results of a loader: it keeps the module and gives it. -/
def keepModule (name : Bytes) (extra : Value) (results : List Value) : Machine (List Value) := do
  match Value.head results with
  | .nil => pure ()
  | v => Machine.rawSet Vm.loaded (.string name) v
  match ← Machine.rawGet Vm.loaded (.string name) with
  | .nil =>
    Machine.rawSet Vm.loaded (.string name) (.boolean true)
    pure [.boolean true, extra]
  | v => pure [v, extra]

/-- For a module that is not known the searchers are asked for a loader, which is called. -/
theorem run_requireModule_of_unknown (call : Caller) (site : Site) {args : List Value} {q : Nat}
    (hname : (args[0]?).bind Machine.rawText? = some name)
    (h : ¬ (vm.moduleState name).known.truthy = true)
    (hq : (vm.moduleState name).searchers = .table q) :
    ∃ fuel, Machine.run (requireModule call site args) vm = Machine.run (do
      let (loader, extra) ← findLoader call site q name (fuel + 1) 1 []
      let results ← call site.inner loader [.string name, extra]
      keepModule name extra results) vm := by
  have hargument : Machine.run (textArgument site "require" 1 args) vm = (.ok name, vm) := by
    unfold textArgument
    rw [hname]
    rfl
  have hread : Machine.run (Machine.rawGet Vm.loaded (.string name)) vm =
      (.ok (vm.moduleState name).known, vm) := rfl
  have hsearchers : Machine.run (Machine.index call site none (.table Vm.package)
      (.text "searchers")) vm = (.ok (.table q), vm) :=
    Machine.run_index_of_present rfl hq (by simp) _ _ _
  refine ⟨(vm.table q).entries.length, ?_⟩
  unfold requireModule
  rw [Machine.run_bind_of_ok hargument, Machine.run_bind_of_ok hread, if_neg h,
    Machine.run_bind_of_ok hsearchers]
  exact Machine.run_bind_of_ok (Machine.run_get vm) _

/-- The searcher of preloads gives the loader that is installed under a name. -/
theorem run_searchPreload {f g : Function} (hf : f.body = .native (.basic .searchPreload))
    (hg : (vm.moduleState name).loader = .function g) (hroom : HasRoom site.nested) (depth : Nat) :
    Machine.run (invokeTo (depth + 1) site f [.string name]) vm =
      (.ok [.function g, .text ":preload:"], vm) := by
  have hloader : Machine.run (Machine.rawGet Vm.preload (.string name)) vm =
      (.ok (.function g), vm) := congrArg (fun v => (Except.ok v, vm)) hg
  rw [invokeTo_native hf hroom]
  exact (Machine.run_bind_of_ok rfl _).trans (Machine.run_bind_of_ok hloader _)

/-- Among the searchers, the first one already finds the loader of a preload. -/
theorem run_findLoader {q fuel depth : Nat} {g : Function}
    (hq : (vm.moduleState name).searchers = .table q)
    (hfirst : ∃ f : Function, (vm.moduleState name).first = .function f ∧
      f.body = .native (.basic .searchPreload))
    (hg : (vm.moduleState name).loader = .function g) (hroom : HasRoom site.inner.nested) :
    Machine.run (findLoader (invokeTo (depth + 1)) site q name (fuel + 1) 1 []) vm =
      (.ok (g, .text ":preload:"), vm) := by
  obtain ⟨f, hf, hbody⟩ := hfirst
  unfold findLoader
  rw [Machine.run_bind_of_ok (Vm.run_firstSearcher hq hf)]
  dsimp only
  rw [Machine.run_bind, Machine.run_callValue_function, run_searchPreload hbody hg hroom]
  rfl

/-- Without room for the calls that it makes, a request changes nothing: it fails, unless the module
is known. -/
theorem run_require_of_no_room {depth : Nat} {f : Function} {args : List Value}
    (hgenuine : f.body = .native (.basic .require))
    (hname : (args[0]?).bind Machine.rawText? = some name)
    (hpreloads : (vm.moduleState name).Preloads name opener)
    (hroom : depth < 2 ∨ ¬ HasRoom site.nested ∨ ¬ HasRoom site.inner.nested) :
    ∃ r, Machine.run (invokeTo depth site f args) vm = (r, vm) := by
  by_cases hcalled : depth = 0 ∨ ¬ HasRoom site.nested
  · obtain ⟨e, he⟩ := run_invokeTo_of_no_room hcalled f args vm
    exact ⟨_, he⟩
  rw [not_or, Classical.not_not] at hcalled
  obtain ⟨depth, rfl⟩ := Nat.exists_eq_succ_of_ne_zero hcalled.1
  have hinner : depth = 0 ∨ ¬ HasRoom site.inner.nested := by
    rcases hroom with hdepth | hsite | hinner
    · exact .inl (by omega)
    · exact absurd hcalled.2 hsite
    · exact .inr hinner
  rw [Nat.succ_eq_add_one, invokeTo_native hgenuine hcalled.2]
  show ∃ r, Machine.run (requireModule (invokeTo depth) site args) vm = (r, vm)
  by_cases hknown : (vm.moduleState name).known.truthy = true
  · exact ⟨_, run_requireModule_of_known hname hknown⟩
  · obtain ⟨q, hq⟩ := hpreloads.searchers
    obtain ⟨g, hfirst, -⟩ := hpreloads.first
    obtain ⟨fuel, hrun⟩ := run_requireModule_of_unknown (invokeTo depth) site hname hknown hq
    obtain ⟨e, he⟩ := run_invokeTo_of_no_room hinner g [.string name] vm
    rw [hrun]
    unfold findLoader
    rw [Machine.run_bind, Machine.run_bind_of_ok (Vm.run_firstSearcher hq hfirst)]
    dsimp only
    rw [Machine.run_bind, Machine.run_callValue_function, he]
    exact ⟨_, rfl⟩

end

/-- A reply gives a module: neither an error, nor false. -/
def LoadsModule (r : Except Value (List Value)) (v : Value) : Prop :=
  v.truthy = true ∧ ∃ rest, r = .ok (v :: rest)

/-- A reply that begins with a value gives this value, unless it is false. -/
theorem loadsModule_ok {v w : Value} {rest : List Value} :
    LoadsModule (.ok (v :: rest)) w ↔ v.truthy = true ∧ w = v := by
  constructor
  · rintro ⟨htruthy, _, hgiven⟩
    cases hgiven
    exact ⟨htruthy, rfl⟩
  · rintro ⟨htruthy, rfl⟩
    exact ⟨htruthy, rest, rfl⟩

/-- A reply gives one module. -/
theorem LoadsModule.unique {r : Except Value (List Value)} {v w : Value} (h : LoadsModule r v)
    (h' : LoadsModule r w) : v = w := by
  obtain ⟨-, _, rfl⟩ := h
  exact (loadsModule_ok.mp h').2.symm

/-- An error gives no module. -/
theorem not_loadsModule_error {e v : Value} : ¬ LoadsModule (.error e) v := by
  rintro ⟨-, _, hgiven⟩
  cases hgiven

/-- Of what requests read, a write under a text concerns only the known modules, if it goes neither
to `package` nor to the preloads. -/
theorem Vm.moduleState_write {vm : Vm} {ref : Nat} (hpackage : ref ≠ Vm.package)
    (hpreload : ref ≠ Vm.preload) (s name : Bytes) (v : Value) :
    (vm.write ref (.string s) v).moduleState name =
      { vm.moduleState name with
        known := ((vm.write ref (.string s) v).table Vm.loaded).get (.string name) } := by
  have hsearchers : ((vm.write ref (.string s) v).table package).get (.text "searchers") =
      (vm.table package).get (.text "searchers") :=
    vm.get_write_of_ne (fun h => absurd h hpackage) v
  unfold moduleState
  rw [hsearchers, vm.get_write_of_ne (fun h => absurd h hpreload) v]
  cases (vm.table Vm.package).get (.text "searchers") with
  | table q =>
    have hkey : Key.string s ≠ .integer 1 := nofun
    dsimp only
    rw [vm.get_write_of_ne (fun _ => hkey) v]
  | _ => rfl

/-- A write to the table of modules changes what is known for its name. -/
theorem Vm.moduleState_write_loaded {vm : Vm} (hsize : Vm.loaded < vm.tables.size) (name : Bytes)
    (v : Value) :
    (vm.write Vm.loaded (.string name) v).moduleState name =
      { vm.moduleState name with known := v } := by
  rw [moduleState_write (by decide) (by decide), table_write, if_pos ⟨rfl, hsize⟩, Table.get_set,
    if_pos rfl]

namespace RequireCall

variable {name : Bytes} {opener : Opener} {vm : Vm}

/-- A request is a run of `require`. -/
theorem reply_eq (c : RequireCall name) (vm : Vm) :
    c.reply vm = Machine.run (requireModule (invokeTo (c.depth + 1)) c.site c.args) vm := by
  unfold reply
  rw [invokeTo_native c.genuine c.room]
  rfl

/-- A module that is known is given, and nothing runs. -/
theorem reply_of_known (c : RequireCall name) (h : (vm.moduleState name).known.truthy = true) :
    c.reply vm = (.ok [(vm.moduleState name).known], vm) := by
  rw [reply_eq]
  exact run_requireModule_of_known c.named h

/-- A module that is not known is loaded. -/
theorem reply_of_unknown (c : RequireCall name)
    (hunknown : ¬ (vm.moduleState name).known.truthy = true)
    (hpreloads : (vm.moduleState name).Preloads name opener) :
    c.reply vm = Machine.run
      (runLoader (invokeTo c.depth) c.site.inner name opener >>=
        keepModule name (.text ":preload:")) vm := by
  obtain ⟨q, hq⟩ := hpreloads.searchers
  obtain ⟨g, hg, hbody⟩ := hpreloads.loader
  obtain ⟨fuel, hrun⟩ :=
    run_requireModule_of_unknown (invokeTo (c.depth + 1)) c.site c.named hunknown hq
  rw [reply_eq, hrun, Machine.run_bind_of_ok (run_findLoader hq hpreloads.first hg c.inner)]
  dsimp only
  rw [invokeTo_native hbody c.inner]
  rfl

/-- A module that is not nil is kept and given. -/
theorem run_keepModule_of_found {v : Value} (hv : v ≠ .nil) (hsize : Vm.loaded < vm.tables.size) :
    Machine.run (keepModule name (.text ":preload:") [v]) vm =
      (.ok [v, .text ":preload:"], vm.write Vm.loaded (.string name) v) := by
  have hread : ((vm.write Vm.loaded (.string name) v).table Vm.loaded).get (.string name) = v := by
    rw [Vm.table_write, if_pos ⟨rfl, hsize⟩, Table.get_set, if_pos rfl]
  have hkept : Machine.run (Machine.rawGet Vm.loaded (.string name))
      (vm.write Vm.loaded (.string name) v) =
        (.ok v, vm.write Vm.loaded (.string name) v) :=
    congrArg (fun w => (Except.ok w, vm.write Vm.loaded (.string name) v)) hread
  have hset := Machine.run_rawSet Vm.loaded (.string name) v vm
  unfold keepModule
  cases v with
  | nil => exact absurd rfl hv
  | _ =>
    dsimp only [Value.head]
    rw [Machine.run_bind_of_ok hset, Machine.run_bind_of_ok hkept]
    rfl

/-- Nil becomes true where nothing is known. -/
theorem run_keepModule_of_missing (h : (vm.moduleState name).known = .nil) :
    Machine.run (keepModule name (.text ":preload:") [.nil]) vm =
      (.ok [.boolean true, .text ":preload:"],
        vm.write Vm.loaded (.string name) (.boolean true)) := by
  have hread : Machine.run (Machine.rawGet Vm.loaded (.string name)) vm = (.ok .nil, vm) :=
    congrArg (fun v => (Except.ok v, vm)) h
  exact Machine.run_bind_of_ok hread _

/-- Nil leaves false where that is known. -/
theorem run_keepModule_of_false (h : (vm.moduleState name).known = .boolean false) :
    Machine.run (keepModule name (.text ":preload:") [.nil]) vm =
      (.ok [.boolean false, .text ":preload:"], vm) := by
  have hread : Machine.run (Machine.rawGet Vm.loaded (.string name)) vm =
      (.ok (.boolean false), vm) :=
    congrArg (fun v => (Except.ok v, vm)) h
  exact Machine.run_bind_of_ok hread _

/-- At a request for a module that is not known the opener runs. -/
theorem opens_of_unknown (c : RequireCall name)
    (hunknown : ¬ (vm.moduleState name).known.truthy = true)
    (hpreloads : (vm.moduleState name).Preloads name opener) (hspares : c.Spares opener vm) :
    c.Opens opener vm (c.reply vm).1 (c.reply vm).2 := by
  rw [reply_of_unknown c hunknown hpreloads, Machine.run_bind]
  unfold Spares at hspares
  rcases hload : Machine.run (openAndRead (invokeTo c.depth) c.site.inner.inner name opener) vm with
    ⟨e | v, vm'⟩
  · obtain ⟨cause, vm'', hcause⟩ :=
      run_faultOf (invokeTo c.depth) c.site.inner.inner e vm'
    rw [run_runLoader_of_error hload hcause]
    exact .raised hload hcause
  · rw [run_runLoader_of_ok hload] at hspares ⊢
    dsimp only at hspares ⊢
    by_cases hv : v = .nil
    · subst hv
      rcases Value.eq_nil_or_false hunknown with hnil | hfalse
      · rw [run_keepModule_of_missing (by rw [hspares, hnil])]
        exact .missing hload hnil
      · rw [run_keepModule_of_false (by rw [hspares, hfalse])]
        exact .stillFalse hload hfalse
    · have hsize : Vm.loaded < vm'.tables.size := by
        obtain ⟨q, hq⟩ := hpreloads.searchers
        rw [← hspares] at hq
        exact Nat.lt_trans (by decide) (Vm.package_lt_size hq)
      rw [run_keepModule_of_found hv hsize]
      exact .found hload hv

/-- After a request the module is what was given, unless the request failed or gave false: then no
module is known. Nothing else changes of what `require` reads for the name. -/
theorem moduleState_reply (c : RequireCall name)
    (hpreloads : (vm.moduleState name).Preloads name opener)
    (hspares : ¬ (vm.moduleState name).known.truthy = true → c.Spares opener vm) :
    ∃ known, (c.reply vm).2.moduleState name = { vm.moduleState name with known := known } ∧
      (known.truthy = true ∧ LoadsModule (c.reply vm).1 known ∨
        ¬ known.truthy = true ∧ ∀ v, ¬ LoadsModule (c.reply vm).1 v) := by
  by_cases hknown : (vm.moduleState name).known.truthy = true
  · rw [reply_of_known c hknown]
    exact ⟨_, rfl, .inl ⟨hknown, loadsModule_ok.mpr ⟨hknown, rfl⟩⟩⟩
  have hspared := hspares hknown
  unfold Spares at hspared
  have hopens := c.opens_of_unknown hknown hpreloads (hspares hknown)
  -- The module is written where nothing else is read.
  have hwrite : ∀ {vm' : Vm} (v : Value), vm'.moduleState name = vm.moduleState name →
      (vm'.write Vm.loaded (.string name) v).moduleState name =
        { vm.moduleState name with known := v } := by
    intro vm' v hsame
    obtain ⟨q, hq⟩ := hpreloads.searchers
    rw [← hsame] at hq ⊢
    exact Vm.moduleState_write_loaded (Nat.lt_trans (by decide) (Vm.package_lt_size hq)) name v
  generalize c.reply vm = answer at hopens ⊢
  obtain ⟨r, later⟩ := answer
  cases hopens with
  | @found v vm' hload hv =>
    rw [run_runLoader_of_ok hload] at hspared
    refine ⟨v, hwrite v hspared, ?_⟩
    by_cases htruthy : v.truthy = true
    · exact .inl ⟨htruthy, loadsModule_ok.mpr ⟨htruthy, rfl⟩⟩
    · exact .inr ⟨htruthy, fun w hw => htruthy (loadsModule_ok.mp hw).1⟩
  | @missing vm' hload hnil =>
    rw [run_runLoader_of_ok hload] at hspared
    exact ⟨_, hwrite _ hspared, .inl ⟨rfl, loadsModule_ok.mpr ⟨rfl, rfl⟩⟩⟩
  | @stillFalse vm' hload hfalse =>
    rw [run_runLoader_of_ok hload] at hspared
    exact ⟨_, hspared, .inr ⟨hknown, fun w hw => nomatch (loadsModule_ok.mp hw).1⟩⟩
  | @raised e cause vm' vm'' hload hcause =>
    rw [run_runLoader_of_error hload hcause] at hspared
    exact ⟨_, hspared, .inr ⟨hknown, fun w => not_loadsModule_error⟩⟩

end RequireCall

/-! ## The life of a machine -/

/-- From a machine on, its life for the name of a preload: the replies to the requests so far, and
the machine that it has become. Between requests anything may happen that leaves alone what
`require` reads for the name, and so does an opener that runs at a request. -/
inductive Life (name : Bytes) (opener : Opener) (vm : Vm) :
    List (Except Value (List Value)) → Vm → Prop
  | new : Life name opener vm [] vm
  | aside {replies : List (Except Value (List Value))} {now later : Vm} :
      Life name opener vm replies now → later.moduleState name = now.moduleState name →
        Life name opener vm replies later
  | request {replies : List (Except Value (List Value))} {now : Vm} (c : RequireCall name) :
      Life name opener vm replies now →
      (¬ (now.moduleState name).known.truthy = true → c.Spares opener now) →
        Life name opener vm (replies ++ [(c.reply now).1]) (c.reply now).2

section

variable {name : Bytes} {opener : Opener} {vm now : Vm} {replies : List (Except Value (List Value))}

/-- Through its life a machine keeps the preload, and it knows a module as soon as a request has
given one. -/
theorem Life.invariant (h : Life name opener vm replies now)
    (hpreloads : (vm.moduleState name).Preloads name opener)
    (hnew : (vm.moduleState name).known = .nil) :
    (now.moduleState name).Preloads name opener ∧
      ((now.moduleState name).known.truthy = true ∧
          (∀ r ∈ replies, ∀ v, LoadsModule r v → v = (now.moduleState name).known) ∧
          (∃ r ∈ replies, LoadsModule r (now.moduleState name).known) ∨
        ¬ (now.moduleState name).known.truthy = true ∧
          ∀ r ∈ replies, ∀ v, ¬ LoadsModule r v) := by
  induction h with
  | new =>
    refine ⟨hpreloads, .inr ⟨?_, nofun⟩⟩
    rw [hnew]
    nofun
  | aside _ hsame ih =>
    rw [hsame]
    exact ih
  | @request replies now c _ hspares ih =>
    obtain ⟨hnow, hcases⟩ := ih
    rcases hcases with ⟨hknown, hall, hsome⟩ | ⟨hunknown, hnone⟩
    · -- The module that is known is given again, and nothing changes.
      rw [c.reply_of_known hknown]
      refine ⟨hnow, .inl ⟨hknown, ?_, ?_⟩⟩
      · intro r hr v hv
        rcases List.mem_append.mp hr with hbefore | hlast
        · exact hall r hbefore v hv
        · rw [List.mem_singleton.mp hlast] at hv
          exact (loadsModule_ok.mp hv).2
      · obtain ⟨r, hr, hloads⟩ := hsome
        exact ⟨r, List.mem_append_left _ hr, hloads⟩
    · obtain ⟨known, hstate, hreply⟩ := c.moduleState_reply hnow hspares
      rw [hstate]
      refine ⟨⟨hnow.searchers, hnow.first, hnow.loader⟩, ?_⟩
      rcases hreply with ⟨htruthy, hloads⟩ | ⟨htruthy, hlast⟩
      · refine .inl ⟨htruthy, ?_, _, List.mem_append_right _ List.mem_cons_self, hloads⟩
        intro r hr v hv
        rcases List.mem_append.mp hr with hbefore | hr
        · exact absurd hv (hnone r hbefore v)
        · rw [List.mem_singleton.mp hr] at hv
          exact hv.unique hloads
      · refine .inr ⟨htruthy, ?_⟩
        intro r hr v
        rcases List.mem_append.mp hr with hbefore | hr
        · exact hnone r hbefore v
        · rw [List.mem_singleton.mp hr]
          exact hlast v

/-- A preload is opened by requests only. -/
structure OpensOnRequest (name : Bytes) (opener : Opener) (vm : Vm) : Prop where
  /-- As long as no request has given a module, the opener runs at the next one. -/
  opens : ∀ replies now, Life name opener vm replies now → (∀ r ∈ replies, ∀ v, ¬ LoadsModule r v) →
    ∀ c : RequireCall name, c.Spares opener now →
      c.Opens opener now (c.reply now).1 (c.reply now).2
  /-- Once a request has given a module, all others give the same, and nothing runs. -/
  keeps : ∀ replies now, Life name opener vm replies now → ∀ r ∈ replies, ∀ v, LoadsModule r v →
    ∀ c : RequireCall name, c.reply now = (.ok [v], now)
  /-- A call without room for the calls that it makes runs nothing. -/
  crowded : ∀ replies now, Life name opener vm replies now →
    ∀ depth (site : Site) (f : Function) args,
      f.body = .native (.basic .require) → (args[0]?).bind Machine.rawText? = some name →
      (depth < 2 ∨ ¬ HasRoom site.nested ∨ ¬ HasRoom site.inner.nested) →
        ∃ r, Machine.run (invokeTo depth site f args) now = (r, now)

/-- A machine in which a preload is installed, and which knows no module of its name, opens it on
request. -/
theorem opensOnRequest_of_preloads (hpreloads : (vm.moduleState name).Preloads name opener)
    (hnew : (vm.moduleState name).known = .nil) : OpensOnRequest name opener vm where
  opens replies now h hnone c hspares := by
    obtain ⟨hnow, ⟨-, -, r, hr, hloads⟩ | ⟨hunknown, -⟩⟩ := h.invariant hpreloads hnew
    · exact absurd hloads (hnone r hr _)
    · exact c.opens_of_unknown hunknown hnow hspares
  keeps replies now h r hr v hloads c := by
    obtain ⟨-, ⟨hknown, hall, -⟩ | ⟨-, hnone⟩⟩ := h.invariant hpreloads hnew
    · rw [hall r hr v hloads]
      exact c.reply_of_known hknown
    · exact absurd hloads (hnone r hr v)
  crowded replies now h depth site f args hgenuine hname hroom :=
    run_require_of_no_room hgenuine hname (h.invariant hpreloads hnew).1 hroom

end

/-! ## Openers that make a table

Where the global variables have no metatable, an opener that makes a table leaves alone what
requests read. -/

/-- Making the fields of a table takes numbers for functions, and nothing else. -/
theorem run_provisions (fields : List (Bytes × Provision)) (vm : Vm) :
    ∃ es n, Machine.run (provisions fields) vm = (.ok es, { vm with nextId := n }) := by
  induction fields generalizing vm with
  | nil => exact ⟨[], vm.nextId, rfl⟩
  | cons field rest ih =>
    obtain ⟨name, p⟩ := field
    obtain ⟨v, m, hvalue⟩ : ∃ v m, Machine.run (Provision.value p) vm =
        (.ok v, { vm with nextId := m }) := by
      cases p with
      | text s => exact ⟨_, vm.nextId, rfl⟩
      | routine => exact ⟨_, _, rfl⟩
    obtain ⟨es, n, hrest⟩ := ih { vm with nextId := m }
    refine ⟨(.string name, v) :: es, n, ?_⟩
    unfold provisions
    rw [Machine.run_bind_of_ok hvalue, Machine.run_bind_of_ok hrest]
    rfl

/-- An opener that makes a table puts it into the global variable. -/
theorem run_openAndRead_table {vm : Vm} (hplain : (vm.table Vm.globals).metatable = none)
    (hsize : Vm.globals < vm.tables.size) (call : Caller) (site : Site) (name global : Bytes)
    (fields : List (Bytes × Provision)) :
    ∃ es n, let made : Vm := { vm with nextId := n, tables := vm.tables.push (.ofEntries es) }
      let later := made.write Vm.globals (.string global) (.table vm.tables.size)
      Machine.run (openAndRead call site name (.table global fields)) vm =
        (.ok ((later.table Vm.globals).get (.string name)), later) := by
  obtain ⟨es, n, hfields⟩ := run_provisions fields vm
  refine ⟨es, n, ?_⟩
  intro made later
  have hglobals : made.table Vm.globals = vm.table Vm.globals := by
    unfold Store.table
    rw [Array.getElem?_push_lt hsize, Array.getElem?_eq_getElem hsize]
  have hset : Machine.run (setGlobal call site global (.table vm.tables.size)) made =
      (.ok (), later) :=
    run_setGlobal_of_plain (by rw [hglobals, hplain]) call site global _
  have hread : Machine.run (getGlobal call site name) later =
      (.ok ((later.table Vm.globals).get (.string name)), later) :=
    run_getGlobal_of_plain (by rw [Vm.metatable_write, hglobals, hplain]) call site name
  have hopened : Machine.run (openSupplied call site (.table global fields)) vm =
      (.ok (), later) := by
    rw [openSupplied_table, Machine.run_bind_of_ok hfields]
    exact (Machine.run_bind_of_ok rfl _).trans hset
  unfold openAndRead
  rw [Machine.run_bind_of_ok hopened, hread]

namespace Vm

variable {vm : Vm} {name : Bytes} {opener : Opener}

/-- A new table is not read at a request, for whatever name. -/
theorem moduleState_push (h : (vm.moduleState name).Preloads name opener) (t : Table) (n : Nat)
    (other : Bytes) :
    ({ vm with nextId := n, tables := vm.tables.push t } : Vm).moduleState other =
      vm.moduleState other := by
  have hold : ∀ ref, ref < vm.tables.size →
      ({ vm with nextId := n, tables := vm.tables.push t } : Vm).table ref = vm.table ref := by
    intro ref href
    unfold Store.table
    dsimp only
    rw [Array.getElem?_push_lt href, Array.getElem?_eq_getElem href]
  obtain ⟨q, hq⟩ := h.searchers
  obtain ⟨f, hf, -⟩ := h.first
  have hpackage : package < vm.tables.size := package_lt_size hq
  have hlist : q < vm.tables.size := by
    refine lt_size_of_get (k := .integer 1) ?_
    rw [← first_eq hq, hf]
    nofun
  have hsearchers : (vm.table package).get (.text "searchers") = .table q := hq
  unfold moduleState
  rw [hold package hpackage, hold preload (Nat.lt_trans (by decide) hpackage),
    hold loaded (Nat.lt_trans (by decide) hpackage), hsearchers]
  dsimp only
  rw [hold q hlist]

/-- A global variable is not read at a request. -/
theorem moduleState_write_global (g : Bytes) (v : Value) :
    (vm.write Vm.globals (.string g) v).moduleState name = vm.moduleState name := by
  rw [moduleState_write (by decide) (by decide), vm.get_write_of_ne (fun h => absurd h (by decide))]
  rfl

end Vm

section

variable {name : Bytes} {vm : Vm}

/-- The opener that would run at a request makes a table, and leaves alone what requests read. -/
theorem RequireCall.spares_table {global : Bytes} {fields : List (Bytes × Provision)}
    (c : RequireCall name) (hplain : (vm.table Vm.globals).metatable = none)
    (hpreloads : (vm.moduleState name).Preloads name (.table global fields)) :
    c.Spares (.table global fields) vm := by
  obtain ⟨q, hq⟩ := hpreloads.searchers
  have hsize : Vm.globals < vm.tables.size := Nat.lt_trans (by decide) (Vm.package_lt_size hq)
  obtain ⟨es, n, hload⟩ := run_openAndRead_table hplain hsize (invokeTo c.depth) c.site.inner.inner
    name global fields
  unfold Spares
  rw [run_runLoader_of_ok hload, Vm.moduleState_write_global, Vm.moduleState_push hpreloads]

/-- An opener that makes a table under the name of its preload gives this table at a
request. -/
theorem RequireCall.reply_of_table {fields : List (Bytes × Provision)} (c : RequireCall name)
    (hunknown : ¬ (vm.moduleState name).known.truthy = true)
    (hplain : (vm.table Vm.globals).metatable = none)
    (hpreloads : (vm.moduleState name).Preloads name (.table name fields)) :
    (c.reply vm).1 = .ok [.table vm.tables.size, .text ":preload:"] := by
  obtain ⟨q, hq⟩ := hpreloads.searchers
  have hsize : Vm.globals < vm.tables.size := Nat.lt_trans (by decide) (Vm.package_lt_size hq)
  obtain ⟨es, n, hrun⟩ := run_openAndRead_table hplain hsize (invokeTo c.depth) c.site.inner.inner
    name name fields
  have hmade : Vm.globals < (vm.tables.push (.ofEntries es)).size := by
    rw [Array.size_push]
    exact Nat.lt_succ_of_lt hsize
  dsimp only at hrun
  rw [Vm.table_write, if_pos ⟨rfl, hmade⟩, Table.get_set, if_pos rfl] at hrun
  have hopens := c.opens_of_unknown hunknown hpreloads (c.spares_table hplain hpreloads)
  generalize c.reply vm = answer at hopens ⊢
  obtain ⟨r, later⟩ := answer
  cases hopens with
  | found hload _ =>
    cases hrun.symm.trans hload
    rfl
  | missing hload _ => cases hrun.symm.trans hload
  | stillFalse hload _ => cases hrun.symm.trans hload
  | raised hload _ => cases hrun.symm.trans hload

end

end Script

end EventScripts
