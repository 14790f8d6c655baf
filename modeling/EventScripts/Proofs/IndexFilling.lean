import EventScripts.Proofs.MachineRuns
import EventScripts.Proofs.OperationFrames

/-!
# When an opening fills the index of names

The index is filled from the machine that has the routines of the host and the libraries, the
stocked machine, in the middle of an opening. What comes after that can still fail: the lockdown of
native modules, the preloads and the search for the functions for protected calls. So a failed
opening leaves the engine as it was, closed, but it fills an empty index if it got as far as the
stocked machine, and only then.
-/

set_option autoImplicit false

namespace EventScripts

open Script

namespace Session

variable {H : Type} [Host H]

/-- The machine from which an opening fills the index, if the routines of the host and the
libraries come into being. -/
def stocked? (s : Session H) : Option Vm :=
  match Machine.run (Operation.firstSteps s.around.host s.engine.selection)
      (Vm.fresh.among s.around.files) with
  | (.ok (), vm) => some vm
  | (.error _, _) => none

/-- A machine is stocked if the first steps of an opening end with it. -/
theorem stocked?_eq_some {s : Session H} {vm : Vm} :
    s.stocked? = some vm ↔
      Machine.run (Operation.firstSteps s.around.host s.engine.selection)
        (Vm.fresh.among s.around.files) = (.ok (), vm) := by
  unfold stocked?
  rcases Machine.run (Operation.firstSteps s.around.host s.engine.selection)
    (Vm.fresh.among s.around.files) with ⟨e | ⟨⟩, vm'⟩ <;> simp

end Session

namespace NameIndex

/-- The index after it was to be filled from a machine, if there was one. -/
def offer (index : NameIndex) : Option Vm → NameIndex
  | some vm => (index.populate vm).1
  | none => index

/-- The index after it was to be filled from a machine. -/
theorem populate_of_empty {index : NameIndex} (h : index.isPopulated = false) (vm : Vm) :
    (index.populate vm).1 = ⟨some (.ofMachine vm)⟩ := by
  unfold isPopulated at h
  unfold populate
  cases hnames : index.names with
  | none => rfl
  | some names => simp [hnames] at h

end NameIndex

namespace Operation

variable {H : Type}

/-- After the index was to be filled it has the names of the machine, or those that it had; the
files stay. -/
theorem after_populateIndex (s : Session H) (vm : Vm) :
    (s.after (populateIndex vm)).index = (s.index.populate vm).1 ∧
      (s.after (populateIndex vm)).around.files = s.around.files := by
  have hlog : ∀ (t : Session H) (line : LogLine),
      (t.after (writeLog line)).index = t.index ∧
        (t.after (writeLog line)).around.files = t.around.files := fun _ _ => ⟨rfl, rfl⟩
  unfold populateIndex
  rw [Session.after_bind, Session.after_get, Session.answer_get]
  rcases s.index.populate vm with ⟨index, filled⟩
  dsimp only
  rw [Session.after_bind, Session.after_modify]
  cases filled with
  | false => exact ⟨rfl, rfl⟩
  | true =>
    cases index.names with
    | none => exact ⟨rfl, rfl⟩
    | some names => exact hlog _ _

variable [Host H]

/-! ## Making a machine -/

/-- A run on a machine concerns the index as little as the engine. -/
theorem index_after_runOn {α : Type} (s : Session H) (vm : Vm) (m : Machine α) :
    (s.after (runOn vm m)).index = s.index := by
  rfl

/-- Without a stocked machine there is no machine, and the index stays as it is. -/
theorem prepare_of_unstocked {s : Session H} (h : s.stocked? = none) :
    (s.after prepare).index = s.index ∧ (s.answer prepare).isOk = false := by
  unfold prepare
  rw [Session.after_bind, Session.after_get, Session.answer_bind, Session.answer_get,
    Session.after_get, Session.after_bind, Session.answer_bind, Session.answer_runOn]
  rcases hfirst : Machine.run (orFault (firstSteps s.around.host s.engine.selection))
      (Vm.fresh.among s.around.files) with ⟨e | (fault | ⟨⟩), vm⟩
  · exact ⟨rfl, rfl⟩
  · exact ⟨rfl, rfl⟩
  · have hstocked : s.stocked? = some vm :=
      Session.stocked?_eq_some.mpr (Machine.run_of_orFault_ok hfirst)
    rw [h] at hstocked
    cases hstocked

/-- From a stocked machine the index is filled, and what comes of the last steps decides. -/
theorem prepare_of_stocked {s : Session H} {vm : Vm} (h : s.stocked? = some vm) :
    (s.after prepare).index = (s.index.populate vm).1 ∧
    ∀ live, s.answer prepare = .ok live ↔
      ∃ vm', Machine.run (lastSteps s.engine.settings.allowNative s.engine.selection)
        (vm.among vm.files) = (.ok live.invoker, vm') ∧ live.vm = vm'.settled := by
  have hfirst : Machine.run (orFault (firstSteps s.around.host s.engine.selection))
      (Vm.fresh.among s.around.files) = (.ok (.ok ()), vm) :=
    Machine.run_orFault_of_ok (Session.stocked?_eq_some.mp h)
  have hlast : ∀ invoker vm',
      Machine.run (orFault (lastSteps s.engine.settings.allowNative s.engine.selection))
        (vm.among vm.files) = (.ok (.ok invoker), vm') ↔
      Machine.run (lastSteps s.engine.settings.allowNative s.engine.selection)
        (vm.among vm.files) = (.ok invoker, vm') :=
    fun invoker vm' => ⟨Machine.run_of_orFault_ok, Machine.run_orFault_of_ok⟩
  have hfilled := after_populateIndex
    (s.after (runOn .fresh (orFault (firstSteps s.around.host s.engine.selection)))) vm.settled
  have hindex : ((s.after (runOn .fresh
      (orFault (firstSteps s.around.host s.engine.selection)))).after
        (populateIndex vm.settled)).index = (s.index.populate vm).1 := by
    rw [hfilled.1, index_after_runOn]
    rfl
  have hfiles : ((s.after (runOn .fresh
      (orFault (firstSteps s.around.host s.engine.selection)))).after
        (populateIndex vm.settled)).around.files = vm.files := by
    rw [hfilled.2, Session.after_runOn, hfirst]
    rfl
  have hready : vm.settled.among vm.files = vm.among vm.files := rfl
  unfold prepare
  rw [Session.after_bind, Session.after_get, Session.answer_get, Session.after_bind,
    Session.answer_runOn, hfirst]
  simp only [Session.answer_bind, Session.after_get, Session.answer_get, Session.answer_runOn,
    hfirst]
  rw [Session.after_bind, Session.after_bind, Session.answer_runOn, hfiles, hready]
  rcases hcase : Machine.run (orFault (lastSteps s.engine.settings.allowNative
      s.engine.selection)) (vm.among vm.files) with ⟨e | (fault | invoker), vm'⟩ <;>
    rw [hcase] at hlast <;>
    dsimp only <;>
    rw [Session.after_pure, index_after_runOn] <;>
    refine ⟨hindex, fun live => ?_⟩
  · refine ⟨nofun, ?_⟩
    rintro ⟨vm'', hrun, -⟩
    cases (hlast _ _).mpr hrun
  · refine ⟨nofun, ?_⟩
    rintro ⟨vm'', hrun, -⟩
    cases (hlast _ _).mpr hrun
  · constructor
    · intro hmade
      cases hmade
      exact ⟨vm', (hlast _ _).mp rfl, rfl⟩
    · rintro ⟨vm'', hrun, hvm⟩
      cases (hlast _ _).mpr hrun
      exact congrArg Except.ok (congrArg (Live.mk · live.invoker) hvm.symm)

/-- What a machine that has been made has gone through. -/
theorem prepare_eq_ok {s : Session H} {live : Live} (h : s.answer prepare = .ok live) :
    ∃ stocked vm', s.stocked? = some stocked ∧
      Machine.run (lastSteps s.engine.settings.allowNative s.engine.selection)
        (stocked.among stocked.files) = (.ok live.invoker, vm') ∧ live.vm = vm'.settled := by
  cases hstocked : s.stocked? with
  | none =>
    have hfailed := (prepare_of_unstocked hstocked).2
    rw [h] at hfailed
    cases hfailed
  | some stocked =>
    obtain ⟨vm', hrun, hvm⟩ := ((prepare_of_stocked hstocked).2 live).mp h
    exact ⟨stocked, vm', rfl, hrun, hvm⟩

/-! ## Nothing else concerns the index -/

/-- The index of names of a session. -/
abbrev indexOf (s : Session H) : NameIndex := s.index

/-- Nothing that is done on the side concerns the index. -/
theorem unnoted_indexOf : Unnoted (indexOf : Session H → NameIndex) where
  count _ := keeps_onEngine fun _ => rfl
  log _ := keeps_onAround fun _ => rfl
  report _ _ _ := fun _ => rfl
  time := keeps_onAround fun _ => rfl

/-- Nothing that is done in a run concerns the index. -/
theorem inner_indexOf : Inner fun s t : Session H => indexOf t = indexOf s :=
  inner_of_view (fun _ _ => rfl) (fun _ _ _ _ _ => rfl) (fun _ _ => rfl) (fun _ _ => rfl)
    fun _ _ => rfl

/-- An execution does not concern the index. -/
theorem keeps_indexOf_execute (source : List Step) (label : String) :
    Keeps indexOf (execute source label : OperationOn H (Except ScriptError Unit)) :=
  unnoted_indexOf.execute inner_indexOf source label

/-- The sources that run in a new engine do not concern the index. -/
theorem keeps_indexOf_install (live : Live) :
    Keeps indexOf (install live : OperationOn H Unit) := by
  unfold install
  refine keeps_bind (keeps_onEngine fun _ => rfl) fun _ => ?_
  refine keeps_bind (keeps_onAround fun _ => rfl) fun _ => ?_
  refine keeps_bind (keeps_map (keeps_indexOf_execute _ _) _) fun _ => ?_
  exact unnoted_indexOf.runSandbox inner_indexOf

/-- The call of a site does not concern the index. -/
theorem keeps_indexOf_callSite (token : Token) (r : Request) (arguments : Machine (List Value))
    (counter : Nat) :
    Keeps indexOf
      (callSite token r arguments counter : OperationOn H (Dispatched (List Value))) :=
  unnoted_indexOf.callSite (keeps_traceDispatch (fun _ _ => rfl) r)
    (fun live => unnoted_indexOf.inScope_runSite inner_indexOf live r arguments) token counter

omit [Host H] in
/-- Closing an engine takes nothing from the index. -/
theorem keeps_indexOf_close : Keeps indexOf (close : OperationOn H Unit) := by
  unfold close
  refine keeps_bind keeps_get fun s => ?_
  split
  · exact keeps_bind (keeps_onEngine fun _ => rfl) fun _ => keeps_onAround fun _ => rfl
  · exact keeps_pure _

/-- An opening leaves the index as the making of its machine does. -/
theorem index_after_openEngine {s : Session H} (hclosed : s.engine.isOpen = false) :
    (s.after openEngine).index = (s.after prepare).index := by
  cases hprepare : s.answer prepare with
  | error e => rw [(openEngine_of_error hclosed hprepare).1]
  | ok live =>
    rw [(openEngine_of_ok hclosed hprepare).1]
    exact keeps_indexOf_install live _

/-- An opening offers the index the stocked machine, if there is one. -/
theorem index_openEngine {s : Session H} (hclosed : s.engine.isOpen = false) :
    (s.after openEngine).index = s.index.offer s.stocked? := by
  rw [index_after_openEngine hclosed]
  cases hstocked : s.stocked? with
  | none => exact (prepare_of_unstocked hstocked).1
  | some vm => exact (prepare_of_stocked hstocked).1

/-- An opening fills an empty index from the stocked machine, if there is one. -/
theorem index_after_openEngine_of_empty {s : Session H} (hclosed : s.engine.isOpen = false)
    (hindex : s.index.isPopulated = false) :
    (s.after openEngine).index = ⟨s.stocked?.map Names.ofMachine⟩ := by
  rw [index_openEngine hclosed]
  cases s.stocked? with
  | none =>
    have hempty : s.index.names = none := by
      simpa [NameIndex.isPopulated] using hindex
    exact congrArg NameIndex.mk hempty
  | some vm => exact NameIndex.populate_of_empty hindex vm

/-! ## Failed openings -/

/-- A failed opening leaves the engine as it was: closed, of the same generation and with the same
counts. An empty index is filled by it exactly when there was a stocked machine, so exactly when
neither a routine of the host nor an opener of a library was what failed. -/
theorem failed_opening_fills_index_iff (s : Session H) (e : ScriptError)
    (hindex : s.index.isPopulated = false) (hfailed : s.answer openEngine = .error e) :
    s.engine.isOpen = false ∧ (s.after openEngine).engine = s.engine ∧
      (s.after openEngine).index = ⟨s.stocked?.map Names.ofMachine⟩ ∧
      ((s.after openEngine).index.isPopulated = false ↔ s.stocked? = none) := by
  have hclosed : s.engine.isOpen = false := by
    cases hopen : s.engine.isOpen with
    | false => rfl
    | true =>
      rw [(openEngine_of_open hopen).2] at hfailed
      cases hfailed
  have hfilled := index_after_openEngine_of_empty hclosed hindex
  refine ⟨hclosed, ?_, hfilled, ?_⟩
  · rcases standing_openEngine hclosed with ⟨hok, -⟩ | ⟨-, hengine⟩
    · rw [hfailed] at hok
      cases hok
    · exact hengine
  · rw [hfilled]
    cases s.stocked? <;> simp [NameIndex.isPopulated]

/-- An engine for a document whose script for new machines fails. -/
def unroutined : Session :=
  .new (.new .default .none .log "")
    (some { Document.new "W" with routines := [.run (.call .nil [])] })

/-- Where the routines of the host fail, the index stays empty. -/
theorem failed_opening_fills_index_iff_unroutined :
    ∃ e, unroutined.answer openEngine = .error e ∧
      (unroutined.after openEngine).index.isPopulated = false := by
  have hfailed : (unroutined.answer openEngine).isOk = false := by
    decide +kernel
  have hunstocked : unroutined.stocked?.isNone = true := by
    decide +kernel
  cases hanswer : unroutined.answer openEngine with
  | ok result =>
    rw [hanswer] at hfailed
    cases hfailed
  | error e =>
    obtain ⟨-, -, -, hiff⟩ := failed_opening_fills_index_iff unroutined e rfl hanswer
    exact ⟨e, rfl, hiff.mpr (Option.isNone_iff_eq_none.mp hunstocked)⟩

/-- An engine for a document that takes `pcall` away from every new machine. -/
def unprotected : Session :=
  .new (.new .default .none .log "")
    (some { Document.new "W" with routines := [.setGlobal (textBytes "pcall") .nil] })

/-- Where the search for the functions for protected calls fails, the index has been filled by a
machine that never opened. -/
theorem failed_opening_fills_index :
    unprotected.index.isPopulated = false ∧ (unprotected.answer openEngine).isOk = false ∧
      (unprotected.after openEngine).index.isPopulated = true := by
  decide +kernel

end Operation

end EventScripts
