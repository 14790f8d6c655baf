import EventScripts.Engine.Dispatch
import EventScripts.Engine.Lifecycle
import EventScripts.Proofs.FileRuns

/-!
# What operations leave alone

An operation is a computation on a session. `Session.after` and `Session.answer` are the two halves
of its run, with one lemma for each way in which operations are composed. `Operation.Keeps` says of
a view of the session that an operation never changes it; it is closed under composition, so a
statement about a whole dispatch is assembled from statements about its steps.

More generally, an operation may lead from every session to a related one. A relation is `Inner` if
it allows for what runs in an open machine do before anything is concluded from them: the machine
goes on, scripts have their effects, and a scope sets the origin and the style and puts them back.
What is concluded is done on the side, and a view may be `Unnoted` by it. From these two facts about
a view follows that whole executions and dispatches keep it.

The footing of a session is what every run inside an open machine leaves alone: the generation and
the settings of the engine, the functions for protected calls, and whether a host is attached. A
machine is only ever made or taken away by opening, closing and resetting.
-/

set_option autoImplicit false

namespace EventScripts

open Script

namespace Session

variable {H α β : Type}

/-- The session that an operation leaves. -/
def after (s : Session H) (op : OperationOn H α) : Session H := (op.run s).2

/-- What an operation answers. -/
def answer (s : Session H) (op : OperationOn H α) : α := (op.run s).1

/-! ## Composed operations -/

/-- Giving a value leaves the session. -/
@[simp] theorem after_pure (s : Session H) (a : α) : s.after (pure a) = s := by
  rfl

/-- Giving a value answers with it. -/
@[simp] theorem answer_pure (s : Session H) (a : α) : s.answer (pure a) = a := by
  rfl

/-- The second operation acts on the session that the first one left. -/
theorem after_bind (s : Session H) (x : OperationOn H α) (f : α → OperationOn H β) :
    s.after (x >>= f) = (s.after x).after (f (s.answer x)) := by
  rfl

/-- A sequence answers what its second operation answers. -/
theorem answer_bind (s : Session H) (x : OperationOn H α) (f : α → OperationOn H β) :
    s.answer (x >>= f) = (s.after x).answer (f (s.answer x)) := by
  rfl

/-- A function of the answer leaves what the operation leaves. -/
@[simp] theorem after_map (s : Session H) (f : α → β) (x : OperationOn H α) :
    s.after (f <$> x) = s.after x := by
  rfl

/-- A function of the answer is applied to it. -/
@[simp] theorem answer_map (s : Session H) (f : α → β) (x : OperationOn H α) :
    s.answer (f <$> x) = f (s.answer x) := by
  rfl

/-- To discard the answer leaves what the operation leaves. -/
@[simp] theorem after_discard (s : Session H) (x : OperationOn H α) :
    s.after (discard x) = s.after x := by
  rfl

/-- Reading leaves the session. -/
@[simp] theorem after_get (s : Session H) : s.after get = s := by
  rfl

/-- Reading answers with the session. -/
@[simp] theorem answer_get (s : Session H) : s.answer get = s := by
  rfl

/-- A change leaves the changed session. -/
@[simp] theorem after_modify (s : Session H) (f : Session H → Session H) :
    s.after (modify f) = f s := by
  rfl

/-! ## The elementary operations -/

/-- A change of the engine leaves everything else. -/
@[simp] theorem after_onEngine (s : Session H) (f : Engine → Engine) :
    s.after (Operation.onEngine f) = { s with engine := f s.engine } := by
  rfl

/-- A change of the surroundings leaves everything else. -/
@[simp] theorem after_onAround (s : Session H) (f : Surroundings H → Surroundings H) :
    s.after (Operation.onAround f) = { s with around := f s.around } := by
  rfl

variable [Host H]

/-- A run on a machine lets what is done in it happen, and nothing else. -/
theorem after_runOn (s : Session H) (vm : Vm) (m : Machine α) :
    s.after (Operation.runOn vm m) =
      { s with
        around := s.around.undergo (Machine.run m (vm.among s.around.files)).2 } := by
  rfl

/-- A run on a machine gives what the computation gives, and the machine with an empty journal. -/
theorem answer_runOn (s : Session H) (vm : Vm) (m : Machine α) :
    s.answer (Operation.runOn vm m) =
      ((Machine.run m (vm.among s.around.files)).1,
        (Machine.run m (vm.among s.around.files)).2.settled) := by
  rfl

/-- The session in which an operation begins that runs in a scope: the style is normal. -/
def entered (s : Session H) : Session H := { s with around := s.around.enter.2 }

/-- A scope lets its operation act on the entered session and puts the host back after it. -/
theorem after_inScope (s : Session H) (op : OperationOn H α) :
    s.after (Operation.inScope op) =
      { s.entered.after op with
        around := (s.entered.after op).around.leave s.around.enter.1 } := by
  rfl

/-- An open engine runs the source that it is to execute in its machine. -/
theorem execute_of_open {s : Session H} {live : Live} (hlive : s.engine.live = some live)
    (source : List Step) (label : String) :
    s.answer (Operation.execute source label) = s.answer (Operation.runSource live source label) ∧
    s.after (Operation.execute source label) = s.after (Operation.runSource live source label) := by
  unfold Operation.execute
  rw [answer_bind, after_bind, answer_get, after_get, hlive]
  exact ⟨rfl, rfl⟩

/-- A scope answers what its operation answers in the entered session. -/
theorem answer_inScope (s : Session H) (op : OperationOn H α) :
    s.answer (Operation.inScope op) = s.entered.answer op := by
  rfl

/-- The session of an engine that has just got a machine. -/
def mounted (s : Session H) (live : Live) : Session H :=
  (s.after (Operation.onEngine fun e =>
    { e with live := some live, generation := e.generation + 1 })).after
      (Operation.writeLog (.info "[scripting] engine opened"))

/-- In a machine that has just been mounted run the source of `check` and the sandbox script. -/
theorem after_install (s : Session H) (live : Live) :
    s.after (Operation.install live) =
      ((s.mounted live).after (Operation.execute Check.source Check.label)).after
        Operation.runSandbox := by
  unfold Operation.install mounted
  rw [after_bind, after_bind, after_bind, after_discard]

end Session

namespace Operation

variable {H α β γ : Type}

/-! ## Views that an operation keeps -/

/-- An operation never changes what a view shows of the session. -/
def Keeps (view : Session H → γ) (op : OperationOn H α) : Prop :=
  ∀ s : Session H, view (s.after op) = view s

variable {view : Session H → γ}

/-- Giving a value keeps every view. -/
theorem keeps_pure (a : α) : Keeps view (pure a) := by
  intro s
  rfl

/-- Reading keeps every view. -/
theorem keeps_get : Keeps view get := by
  intro s
  rfl

/-- A sequence keeps what both of its operations keep. -/
theorem keeps_bind {x : OperationOn H α} {f : α → OperationOn H β} (hx : Keeps view x)
    (hf : ∀ a, Keeps view (f a)) : Keeps view (x >>= f) := by
  intro s
  rw [Session.after_bind, hf _ _, hx s]

/-- A function of the answer changes nothing. -/
theorem keeps_map {x : OperationOn H α} (hx : Keeps view x) (f : α → β) :
    Keeps view (f <$> x) := by
  intro s
  rw [Session.after_map, hx s]

/-- A change of the engine is kept from view by what the view shows. -/
theorem keeps_onEngine {f : Engine → Engine}
    (h : ∀ s : Session H, view { s with engine := f s.engine } = view s) :
    Keeps view (onEngine f) := by
  intro s
  rw [Session.after_onEngine, h s]

/-- A change of the surroundings is kept from view by what the view shows. -/
theorem keeps_onAround {f : Surroundings H → Surroundings H}
    (h : ∀ s : Session H, view { s with around := f s.around } = view s) :
    Keeps view (onAround f) := by
  intro s
  rw [Session.after_onAround, h s]

/-- A source that loads is counted and called, and something is concluded from the call. -/
theorem runSource_of_ok [Host H] {source : List Step} {label : String} {code : Code}
    (hload : load (textBytes label) source = .ok code) (live : Live) :
    (runSource live source label : OperationOn H (Except ScriptError Unit)) = (do
      count fun c => { c with protectedCalls := c.protectedCalls + 1 }
      concludeSource label (← callCode live code)) := by
  unfold runSource
  rw [hload]

/-! ## Relations along which an operation leads -/

/-- An operation leads from every session to a related one. -/
def Leads {α : Type} (R : Session H → Session H → Prop) (op : OperationOn H α) : Prop :=
  ∀ s, R s (s.after op)

/-- A function of the answer leads nowhere else. -/
theorem leads_map {R : Session H → Session H → Prop} {x : OperationOn H α} (hx : Leads R x)
    (f : α → β) : Leads R (f <$> x) := by
  intro s
  rw [Session.after_map]
  exact hx s

section

variable [Host H] {R : Session H → Session H → Prop} (hrefl : ∀ s, R s s)

include hrefl

/-- The trace of a dispatch leads where telling the host of it does. -/
theorem leads_traceDispatch (htrace : ∀ text, Leads R (onAround (·.onHost (Host.trace text))))
    (r : Request) : Leads R (traceDispatch r) := by
  intro s
  unfold traceDispatch
  rw [Session.after_bind, Session.answer_get, Session.after_get]
  split
  · exact htrace _ s
  · exact hrefl s

/-- Setting the origin of a run leads where telling the host of it does. -/
theorem leads_setOrigin (horigin : ∀ o, Leads R (onAround (·.onHost (Host.setOrigin o))))
    (o : Origin) : Leads R (onAround (·.setOrigin o)) := by
  intro s
  rw [Session.after_onAround]
  unfold Surroundings.setOrigin
  by_cases ho : o = .dontChange
  · rw [if_pos ho]
    exact hrefl s
  · rw [if_neg ho]
    exact horigin o s

/-- The sandbox script, if there is one, leads where its scope does. -/
theorem leads_runSandbox
    (hscope : ∀ (live : Live) (source : List Step), Leads R (inScope do
      onAround (·.setOrigin .sandbox)
      discard (runSource live source sandboxLabel))) :
    Leads R runSandbox := by
  intro s
  unfold runSandbox
  rw [Session.after_bind, Session.answer_get, Session.after_get]
  dsimp only
  split
  · exact hscope _ _ s
  · exact hrefl s

end

section

variable [Host H]

/-- A trace keeps a view that telling the host of it keeps. -/
theorem keeps_traceDispatch
    (htrace : ∀ text, Keeps view (onAround (·.onHost (Host.trace text)) : OperationOn H Unit))
    (r : Request) : Keeps view (traceDispatch r : OperationOn H Unit) :=
  leads_traceDispatch (R := fun s t => view t = view s) (fun _ => rfl) htrace r

/-- Setting the origin keeps a view that telling the host of it keeps. -/
theorem keeps_setOrigin
    (horigin : ∀ o, Keeps view (onAround (·.onHost (Host.setOrigin o)) : OperationOn H Unit))
    (o : Origin) : Keeps view (onAround (·.setOrigin o) : OperationOn H Unit) :=
  leads_setOrigin (R := fun s t => view t = view s) (fun _ => rfl) horigin o

end

/-! ## Runs in an open machine -/

section

variable [Host H]

/-- A relation between earlier and later sessions that allows for what a run in an open machine does
before anything is concluded from it: the machine goes on, scripts do something to the host and ask
something of the files, and the origin and the style are set. -/
structure Inner (R : Session H → Session H → Prop) : Prop where
  refl : ∀ s, R s s
  trans : ∀ {s t u}, R s t → R t u → R s u
  machine : ∀ vm, Leads R (putVm vm)
  undergo : ∀ (s : Session H) (vm : Vm), vm.files = s.around.files.serveAll vm.asked →
    R s { s with around := s.around.undergo vm }
  style : ∀ t, Leads R (onAround (·.onHost (Host.setStyle t)))
  origin : ∀ o, Leads R (onAround (·.onHost (Host.setOrigin o)))

/-- What a view shows stays the same inside of a run if it shows nothing of the machine, the notes,
the files and the log, and nothing of the host that scripts and scopes change. -/
theorem inner_of_view
    (machine : ∀ vm, Keeps view (putVm vm))
    (aside : ∀ (s : Session H) (notes : List Note) (files : FileTree) (asked : List FileRequest)
      (log : List LogLine), view { s with around := { s.around with notes, files, asked, log } } =
        view s)
    (absorb : ∀ e, Keeps view (onAround (·.onHost (Host.absorb e))))
    (style : ∀ t, Keeps view (onAround (·.onHost (Host.setStyle t))))
    (origin : ∀ o, Keeps view (onAround (·.onHost (Host.setOrigin o)))) :
    Inner fun s t => view t = view s where
  refl _ := rfl
  trans hst htu := htu.trans hst
  machine := machine
  undergo s vm _ := by
    have heffect : ∀ (e : Effect) (s : Session H),
        view { s with around := s.around.apply e } = view s := by
      intro e s
      cases e with
      | record values => exact aside s _ s.around.files s.around.asked s.around.log
      | origin o => exact absorb (.origin o) s
      | style t => exact absorb (.style t) s
      | log line => exact aside s s.around.notes s.around.files s.around.asked _
    have hall : ∀ (effects : List Effect) (s : Session H),
        view { s with around := s.around.applyAll effects } = view s := by
      intro effects
      unfold Surroundings.applyAll
      induction effects with
      | nil => exact fun _ => rfl
      | cons e es ih =>
        intro s
        rw [List.foldl_cons]
        exact (ih { s with around := s.around.apply e }).trans (heffect e s)
    exact (aside { s with around := s.around.applyAll vm.effects }
      (s.around.applyAll vm.effects).notes vm.files (s.around.asked ++ vm.asked)
      (s.around.applyAll vm.effects).log).trans (hall vm.effects s)
  style := style
  origin := origin

namespace Inner

variable {R : Session H → Session H → Prop} (hR : Inner R)

include hR

/-- Giving a value leads nowhere else. -/
theorem pure (a : α) : Leads R (pure a : OperationOn H α) :=
  hR.refl

/-- A sequence leads where its second part leads from where its first part led. -/
theorem bind {x : OperationOn H α} {f : α → OperationOn H β} (hx : Leads R x)
    (hf : ∀ a, Leads R (f a)) : Leads R (x >>= f) :=
  fun s => hR.trans (hx s) (hf _ _)

/-- A run on a machine leads on, whatever it comes to. -/
theorem runOn (vm : Vm) (m : Machine α) : Leads R (runOn vm m) :=
  fun s => hR.undergo s _ (Machine.files_run_among m vm s.around.files)

/-- A run gets the origin of its request. -/
theorem setOrigin (o : Origin) : Leads R (onAround (·.setOrigin o)) :=
  leads_setOrigin hR.refl hR.origin o

/-- A scope is left. -/
theorem leave (saved : Surroundings.Saved) : Leads R (onAround (·.leave saved)) := by
  intro s
  have hstyle := hR.style saved.style
    (s.after (onAround (·.onHost (Host.setOrigin saved.origin))))
  have hleft := hR.trans (hR.origin saved.origin s) hstyle
  simp only [Session.after_onAround, Surroundings.onHost, Option.map_map] at hleft
  exact hleft

/-- An operation in a scope leads where it leads outside of it. -/
theorem inScope {op : OperationOn H α} (h : Leads R op) : Leads R (inScope op) := by
  intro s
  rw [Session.after_inScope]
  exact hR.trans (hR.trans (hR.style .normal s) (h s.entered))
    (hR.leave s.around.enter.1 (s.entered.after op))

/-- A function is looked up. -/
theorem findFunction (live : Live) (name : String) : Leads R (findFunction live name) := by
  unfold Operation.findFunction
  refine hR.bind (hR.runOn _ _) fun found => ?_
  exact hR.bind (hR.machine _) fun _ => hR.pure _

/-- Something is called in protected mode. -/
theorem runProtected (live : Live) (m : Machine (Except String (List Value))) :
    Leads R (runProtected live m) := by
  unfold Operation.runProtected
  refine hR.bind (hR.runOn _ _) fun result => ?_
  refine hR.bind (hR.machine _) fun _ => ?_
  cases result.1 <;> exact hR.pure _

/-- A name is probed. -/
theorem resolveToken (name : String) : Leads R (resolveToken name) := by
  unfold Operation.resolveToken
  refine hR.bind hR.refl fun s => ?_
  dsimp only
  cases s.engine.live with
  | none => exact hR.pure _
  | some live => exact hR.bind (hR.findFunction _ _) fun _ => hR.pure _

/-- If counting is allowed for too, so is all of a dispatch after its trace and before its
conclusion. -/
theorem runSite (hcount : ∀ f, Leads R (count f)) (live : Live) (r : Request)
    (arguments : Machine (List Value)) : Leads R (runSite live r arguments) := by
  unfold Operation.runSite
  refine hR.bind (hR.findFunction _ _) fun found => ?_
  obtain ⟨_ | f, live⟩ := found
  · exact hR.pure _
  · refine hR.bind (hR.setOrigin _) fun _ => ?_
    refine hR.bind (hcount _) fun _ => ?_
    exact leads_map (hR.runProtected live _) _

end Inner

end

/-! ## What operations do on the side -/

section

variable [Host H]

/-- A view of the session that counting, logging, reporting and adding the time of a run do not
change. -/
structure Unnoted {γ : Type} (view : Session H → γ) : Prop where
  count : ∀ f, Keeps view (count f)
  log : ∀ line, Keeps view (writeLog line)
  report : ∀ event context description, Keeps view (report event context description)
  time : Keeps view (onAround (·.onHost Host.addTime))

namespace Unnoted

variable (hview : Unnoted view)

include hview

/-- The conclusion of a dispatch is all on the side. -/
theorem concludeSite (token : Token) (r : Request) (counter : Nat) (run : SiteRun) :
    Keeps view (concludeSite token r counter run) := by
  cases run with
  | notFound =>
    refine keeps_bind (hview.count _) fun _ => ?_
    exact keeps_bind (hview.log _) fun _ => keeps_pure _
  | failed message =>
    refine keeps_bind (hview.count _) fun _ => ?_
    exact keeps_bind (hview.report _ _ _) fun _ => keeps_pure _
  | returned results => exact keeps_bind hview.time fun _ => keeps_pure _

/-- A dispatch keeps what its trace and its scoped run keep, if the rest is on the side. -/
theorem callSite {r : Request} {arguments : Machine (List Value)}
    (htrace : Keeps view (traceDispatch r))
    (hrun : ∀ live, Keeps view (inScope (runSite live r arguments))) (token : Token)
    (counter : Nat) : Keeps view (callSite token r arguments counter) := by
  unfold Operation.callSite
  refine keeps_bind keeps_get fun s => ?_
  dsimp only
  cases s.engine.live with
  | none => exact keeps_pure _
  | some live =>
    dsimp only
    split
    · exact keeps_bind (hview.count _) fun _ => keeps_pure _
    · refine keeps_bind htrace fun _ => ?_
      exact keeps_bind (hrun live) fun run => hview.concludeSite _ _ _ run

variable (hinner : Inner fun s t : Session H => view t = view s)

include hinner

/-- The run of a dispatch in its scope keeps what runs keep, if the rest is on the side. -/
theorem inScope_runSite (live : Live) (r : Request) (arguments : Machine (List Value)) :
    Keeps view (inScope (runSite live r arguments) : OperationOn H SiteRun) :=
  hinner.inScope (hinner.runSite hview.count live r arguments)

/-- Running a source keeps what runs keep, if the rest is on the side. -/
theorem runSource (live : Live) (source : List Step) (label : String) :
    Keeps view (runSource live source label) := by
  unfold Operation.runSource
  split
  · refine keeps_bind (hview.count _) fun _ => ?_
    exact keeps_bind (hview.report _ _ _) fun _ => keeps_pure _
  · refine keeps_bind (hview.count _) fun _ => ?_
    refine keeps_bind (hinner.runProtected live _) fun result => ?_
    cases result with
    | error message =>
      refine keeps_bind (hview.count _) fun _ => ?_
      exact keeps_bind (hview.report _ _ _) fun _ => keeps_pure _
    | ok results => exact keeps_bind hview.time fun _ => keeps_pure _

/-- Executing a source keeps what runs keep, if the rest is on the side. -/
theorem execute (source : List Step) (label : String) :
    Keeps view (execute source label) := by
  unfold Operation.execute
  refine keeps_bind keeps_get fun s => ?_
  cases s.engine.live with
  | none => exact keeps_pure _
  | some live => exact hview.runSource hinner live source label

/-- The sandbox script keeps what runs keep, if the rest is on the side. -/
theorem runSandbox : Keeps view (runSandbox : OperationOn H Unit) := by
  refine leads_runSandbox hinner.refl fun live source => hinner.inScope ?_
  refine hinner.bind (hinner.setOrigin _) fun _ => ?_
  exact keeps_map (hview.runSource hinner live source sandboxLabel) _

end Unnoted

end

end Operation

/-! ## The footing of a session -/

/-- What stands of an engine while its machine runs. -/
structure Standing where
  generation : Nat
  settings : Settings (List Step)
  selection : Selection
  reporter : Reporter
  /-- The functions for protected calls, none if the engine is closed. -/
  invoker : Option Invoker

/-- What stands of an engine. -/
def Engine.standing (e : Engine) : Standing :=
  ⟨e.generation, e.settings, e.selection, e.reporter, e.live.map (·.invoker)⟩

/-- An engine is open when it has functions for protected calls. -/
theorem Engine.isOpen_eq_standing (e : Engine) : e.isOpen = e.standing.invoker.isSome := by
  unfold Engine.isOpen Engine.standing
  cases e.live <;> rfl

/-- What every run inside an open machine leaves alone. -/
structure Footing where
  standing : Standing
  attached : Bool

/-- The footing of a session. -/
def Session.footing {H : Type} (s : Session H) : Footing :=
  ⟨s.engine.standing, s.around.host.isSome⟩

namespace Surroundings

variable {H : Type}

/-- What is done to the host is done to the one that is attached. -/
@[simp] theorem host_onHost (a : Surroundings H) (f : H → H) :
    (a.onHost f).host = a.host.map f := by
  rfl

/-- A change that a view of the host does not show is not seen. -/
theorem map_host_onHost {γ : Type} {view : H → γ} {f : H → H} (hf : ∀ h, view (f h) = view h)
    (a : Surroundings H) : (a.onHost f).host.map view = a.host.map view := by
  rw [host_onHost, Option.map_map]
  congr 1
  exact funext hf

/-- The log is not the host's. -/
@[simp] theorem host_writeLog (a : Surroundings H) (line : LogLine) :
    (a.writeLog line).host = a.host := by
  rfl

variable [Host H]

/-- A run in which nothing was done leaves the surroundings as they are. -/
@[simp] theorem undergo_among (a : Surroundings H) (vm : Vm) :
    a.undergo (vm.among a.files) = a := by
  have hasked : a.undergo (vm.among a.files) = { a with asked := a.asked ++ [] } := rfl
  rw [hasked, List.append_nil]

/-- An origin does not concern the files. -/
@[simp] theorem files_setOrigin (a : Surroundings H) (o : Origin) :
    (a.setOrigin o).files = a.files := by
  unfold setOrigin
  split <;> rfl

end Surroundings

namespace Reporter

variable {H γ : Type}

/-- Showing a failure through the presenter does not concern the host. -/
@[simp] theorem host_present (r : Reporter) (f : Failure) (haveHost : Bool)
    (a : Surroundings H) : (r.present f haveHost a).1.host = a.host := by
  unfold present
  cases r.presenter <;> rfl

variable [Host H]

/-- A view of the host that writing to its console does not change. -/
structure Unwritten (view : H → γ) : Prop where
  note : ∀ (fore back : Colour) (text : String) (h : H),
    view (Host.note fore back text h) = view h
  tell : ∀ (fore back : Colour) (text : String) (h : H),
    view (Host.tell fore back text h) = view h

/-- A view of the host that nothing a report does there changes. -/
structure Unseen (view : H → γ) : Prop extends Unwritten view where
  showErrorLines : ∀ (line : Nat) (h : H), view (Host.showErrorLines line h) = view h
  routeErrors : ∀ (toOutput : Bool) (h : H), view (Host.routeErrors toOutput h) = view h

variable {view : H → γ}

/-- The console texts of a failure are unseen. -/
theorem Unwritten.texts (hv : Unwritten view) (texts : List String) (h : H) :
    view (texts.foldl (fun h text => Host.note errorFore errorBack text h) h) = view h := by
  induction texts generalizing h with
  | nil => rfl
  | cons text rest ih => rw [List.foldl_cons, ih, hv.note]

/-- Telling that the error log cannot be opened is unseen. -/
theorem Unwritten.tellUnopened (hv : Unwritten view) (r : Reporter) (h : H) :
    view (r.tellUnopened h) = view h := by
  unfold Reporter.tellUnopened
  rw [hv.note, hv.tell]

/-- Keeping a failure in the error log makes no difference to an unwritten view. -/
theorem Unwritten.keep (hv : Unwritten view) (r : Reporter) (f : Failure) (a : Surroundings H) :
    (r.keep f a).host.map view = a.host.map view := by
  unfold Reporter.keep appendLog
  cases hhost : a.host with
  | none => rw [hhost]
  | some h =>
    dsimp only
    by_cases hlog : Host.logErrors h = true
    · rw [if_pos hlog]
      cases a.files.openAppend r.logPath with
      | error e => simp [hhost, hv.tellUnopened]
      | ok opened =>
        dsimp only
        split <;> rfl
    · rw [if_neg hlog, hhost]

/-- The console texts of a failure and the lines it blames are unseen. -/
theorem Unseen.writeConsole (hv : Unseen view) (f : Failure) (h : H) :
    view (writeConsole f h) = view h := by
  unfold Reporter.writeConsole
  cases f.line with
  | none => exact hv.texts f.consoleTexts h
  | some line => exact (hv.showErrorLines line _).trans (hv.texts f.consoleTexts h)

/-- Where a failure is shown makes no difference to an unseen view. -/
theorem Unseen.route (hv : Unseen view) (r : Reporter) (f : Failure) (a : Surroundings H) :
    (r.route f a).host.map view = a.host.map view := by
  unfold Reporter.route
  cases hhost : a.host with
  | none => rw [host_present, hhost]
  | some h =>
    dsimp only
    by_cases hout : Host.errorsToOutput h = true
    · rw [if_pos hout, Surroundings.host_onHost, hhost]
      simp [hv.writeConsole]
    · rw [if_neg hout]
      split
      · simp [hhost, hv.routeErrors]
      · simp [hhost]

/-- A whole report makes no difference to an unseen view. -/
theorem Unseen.report (hv : Unseen view) (r : Reporter) (event : String)
    (context : Option CallContext) (description : String) (a : Surroundings H) :
    (r.report event context description a).2.host.map view = a.host.map view := by
  unfold Reporter.report
  dsimp only
  rw [hv.keep, hv.route, Surroundings.host_writeLog]

/-- Reporting a failure neither attaches nor detaches the host. -/
theorem isSome_host_report (r : Reporter) (event : String) (context : Option CallContext)
    (description : String) (a : Surroundings H) :
    (r.report event context description a).2.host.isSome = a.host.isSome := by
  have hunit : Unseen (fun _ : H => ()) :=
    ⟨⟨fun _ _ _ _ => rfl, fun _ _ _ _ => rfl⟩, fun _ _ => rfl, fun _ _ => rfl⟩
  have hmap := congrArg Option.isSome (hunit.report r event context description a)
  simpa only [Option.isSome_map] using hmap

/-- Reporting a failure is no request of a script. -/
@[simp] theorem asked_report (r : Reporter) (event : String) (context : Option CallContext)
    (description : String) (a : Surroundings H) :
    (r.report event context description a).2.asked = a.asked := by
  have hpresent : ∀ f haveHost (a : Surroundings H),
      (r.present f haveHost a).1.asked = a.asked := by
    intro f haveHost a
    unfold present
    cases r.presenter <;> rfl
  have hroute : ∀ f (a : Surroundings H), (r.route f a).asked = a.asked := by
    intro f a
    unfold route
    split
    · exact hpresent f false a
    · split
      · rfl
      · dsimp only
        split <;> exact hpresent f true a
  have hkeep : ∀ f (a : Surroundings H), (r.keep f a).asked = a.asked := by
    intro f a
    unfold keep appendLog
    split
    · rfl
    · split
      · split
        · rfl
        · dsimp only
          split <;> rfl
      · rfl
  unfold report
  exact (hkeep _ _).trans (hroute _ _)

end Reporter

namespace Operation

variable {H α : Type}

/-- A machine is put back beside the functions for protected calls that belong to it. -/
theorem keeps_footing_putVm (vm : Vm) :
    Keeps Session.footing (putVm vm : OperationOn H Unit) := by
  refine keeps_onEngine fun s => ?_
  simp only [Session.footing, Engine.standing, Option.map_map]
  rfl

/-- Whatever a host does, it stays attached. -/
theorem keeps_footing_onHost (f : H → H) :
    Keeps Session.footing (onAround (·.onHost f) : OperationOn H Unit) := by
  refine keeps_onAround fun s => ?_
  simp [Session.footing]

variable [Host H]

/-- A report keeps the footing. -/
theorem keeps_footing_report (event : String) (context : Option CallContext)
    (description : String) :
    Keeps Session.footing (report event context description : OperationOn H Unit) := by
  intro s
  unfold report
  simp only [Session.after_modify, Session.footing, Reporter.isSome_host_report]

/-- What is done on the side never touches the footing. -/
theorem unnoted_footing : Unnoted (Session.footing : Session H → Footing) where
  count _ := keeps_onEngine fun _ => rfl
  log _ := keeps_onAround fun _ => rfl
  report event context description := keeps_footing_report event context description
  time := keeps_footing_onHost _

/-- Whatever is done in a run, the engine keeps its footing. -/
theorem inner_footing : Inner fun s t : Session H => t.footing = s.footing :=
  inner_of_view keeps_footing_putVm (fun _ _ _ _ _ => rfl) (fun _ => keeps_footing_onHost _)
    (fun _ => keeps_footing_onHost _) fun _ => keeps_footing_onHost _

/-- A dispatch keeps the footing, whatever becomes of it. -/
theorem keeps_footing_callSite (token : Token) (r : Request) (arguments : Machine (List Value))
    (counter : Nat) :
    Keeps Session.footing
      (callSite token r arguments counter : OperationOn H (Dispatched (List Value))) :=
  unnoted_footing.callSite (keeps_traceDispatch (fun _ => keeps_footing_onHost _) r)
    (fun live => unnoted_footing.inScope_runSite inner_footing live r arguments) token counter

/-- Running a source keeps the footing, whatever becomes of it. -/
theorem keeps_footing_execute (source : List Step) (label : String) :
    Keeps Session.footing (execute source label : OperationOn H (Except ScriptError Unit)) :=
  unnoted_footing.execute inner_footing source label

/-- A trace does not concern the files. -/
@[simp] theorem files_traceDispatch (s : Session H) (r : Request) :
    (s.after (traceDispatch r)).around.files = s.around.files := by
  have hkeeps : Keeps (fun s : Session H => s.around.files) (traceDispatch r) :=
    keeps_traceDispatch (fun _ _ => rfl) r
  exact hkeeps s

/-! ## Making a machine -/

/-- Until it is done, making a machine does not concern the engine. -/
theorem keeps_engine_prepare :
    Keeps (fun s : Session H => s.engine) (prepare : OperationOn H (Except ScriptError Live)) := by
  have hrun : ∀ {α : Type} (vm : Vm) (m : Machine α),
      Keeps (fun s : Session H => s.engine) (runOn vm m) := fun _ _ _ => rfl
  have hindex : ∀ vm : Vm, Keeps (fun s : Session H => s.engine) (populateIndex vm) := by
    intro vm
    unfold populateIndex
    refine keeps_bind keeps_get fun s => ?_
    obtain ⟨index, filled⟩ := s.index.populate vm
    refine keeps_bind (fun _ => rfl) fun _ => ?_
    cases filled
    · exact keeps_pure ()
    · cases index.names with
      | none => exact keeps_pure ()
      | some names =>
        intro s
        rfl
  -- Each of the two runs fails outright, ends with a fault or goes on.
  unfold prepare
  refine keeps_bind keeps_get fun s => ?_
  refine keeps_bind (hrun _ _) fun first => ?_
  obtain ⟨(e | (fault | ⟨⟩)), vm⟩ := first
  · exact keeps_pure _
  · exact keeps_pure _
  · refine keeps_bind (hindex _) fun _ => ?_
    refine keeps_bind (hrun _ _) fun last => ?_
    obtain ⟨(e | (fault | invoker)), vm⟩ := last <;> exact keeps_pure _

/-- Opening an engine that is open does nothing. -/
theorem openEngine_of_open {s : Session H} (h : s.engine.isOpen = true) :
    s.after openEngine = s ∧ s.answer openEngine = .ok () := by
  unfold openEngine
  simp only [Session.after_bind, Session.answer_bind, Session.after_get, Session.answer_get, h,
    if_true]
  exact ⟨Session.after_pure _ _, Session.answer_pure _ _⟩

/-- A closed engine whose machine cannot be made stays closed. -/
theorem openEngine_of_error {s : Session H} {e : ScriptError} (h : s.engine.isOpen = false)
    (he : s.answer prepare = .error e) :
    s.after openEngine = s.after prepare ∧ s.answer openEngine = .error e := by
  unfold openEngine
  simp only [Session.after_bind, Session.answer_bind, Session.after_get, Session.answer_get, h,
    Bool.false_eq_true, if_false, he]
  exact ⟨Session.after_pure _ _, Session.answer_pure _ _⟩

/-- A closed engine gets the machine that was made. -/
theorem openEngine_of_ok {s : Session H} {live : Live} (h : s.engine.isOpen = false)
    (hl : s.answer prepare = .ok live) :
    s.after openEngine = (s.after prepare).after (install live)
      ∧ s.answer openEngine = .ok () := by
  unfold openEngine
  simp only [Session.after_bind, Session.answer_bind, Session.after_get, Session.answer_get, h,
    Bool.false_eq_true, if_false, hl]
  exact ⟨Session.after_pure _ _, Session.answer_pure _ _⟩

/-- A machine that has been made gets the next generation; its first scripts leave it standing. -/
theorem standing_install (s : Session H) (live : Live) :
    (s.after (install live)).engine.standing =
      { s.engine.standing with
        generation := s.engine.generation + 1, invoker := some live.invoker } := by
  have hcheck := keeps_footing_execute (H := H) Check.source Check.label (s.mounted live)
  have hsandbox := unnoted_footing.runSandbox inner_footing
    ((s.mounted live).after (execute Check.source Check.label))
  have hmounted : (s.mounted live).engine.standing =
      { s.engine.standing with
        generation := s.engine.generation + 1, invoker := some live.invoker } := by
    rfl
  rw [Session.after_install]
  exact (congrArg Footing.standing (hsandbox.trans hcheck)).trans hmounted

/-- A closed engine gets the machine that was made, of the next generation. -/
theorem standing_openEngine_of_ok {s : Session H} {live : Live} (h : s.engine.isOpen = false)
    (hl : s.answer prepare = .ok live) :
    (s.after openEngine).engine.standing =
      { s.engine.standing with
        generation := s.engine.generation + 1, invoker := some live.invoker } := by
  have hprepare : (s.after prepare).engine = s.engine := keeps_engine_prepare s
  rw [(openEngine_of_ok h hl).1, standing_install, hprepare]

/-- Opening a closed engine either makes a machine of the next generation or leaves the engine as
it is, and the answer tells which. -/
theorem standing_openEngine {s : Session H} (h : s.engine.isOpen = false) :
    ((s.answer openEngine).isOk = true ∧ ∃ invoker,
      (s.after openEngine).engine.standing =
        { s.engine.standing with
          generation := s.engine.generation + 1, invoker := some invoker }) ∨
    ((s.answer openEngine).isOk = false ∧ (s.after openEngine).engine = s.engine) := by
  cases hp : s.answer prepare with
  | error e =>
    obtain ⟨hafter, hanswer⟩ := openEngine_of_error h hp
    rw [hafter, hanswer]
    exact .inr ⟨rfl, keeps_engine_prepare s⟩
  | ok live =>
    rw [(openEngine_of_ok h hp).2]
    exact .inl ⟨rfl, live.invoker, standing_openEngine_of_ok h hp⟩

omit [Host H] in
/-- A closed engine has no machine; nothing else of it changes. -/
theorem engine_close (s : Session H) :
    (s.after close).engine = { s.engine with live := none } := by
  unfold close
  rw [Session.after_bind, Session.after_get, Session.answer_get]
  cases hlive : s.engine.live with
  | none =>
    have hopen : s.engine.isOpen = false := by
      rw [Engine.isOpen, hlive, Option.isSome_none]
    simp only [hopen, Bool.false_eq_true, if_false, Session.after_pure]
    rw [← hlive]
  | some live =>
    have hopen : s.engine.isOpen = true := by
      rw [Engine.isOpen, hlive, Option.isSome_some]
    simp only [hopen, if_true, Session.after_bind]
    rfl

end Operation

end EventScripts
