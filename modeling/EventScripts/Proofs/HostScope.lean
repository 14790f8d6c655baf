import EventScripts.Proofs.CallArguments
import EventScripts.Proofs.ProtectedCalls
import EventScripts.Proofs.SiteCalls

/-!
# The origin and the note style of the host around a run

A dispatch runs scripts in a scope, and so does the opening of an engine with its sandbox script.
Scripts may change the origin and the note style of the host there, directly, in a function that a
metatable names or in a handler of errors. Whatever they do, and whichever way the dispatch goes,
the host has the origin and the style back that it had before.

This holds of every lawful host: tracing, writing to the console, showing lines and adding times may
do anything to it but change these two.
-/

set_option autoImplicit false

namespace EventScripts

open Script

namespace Surroundings

variable {H : Type} [Host H] [LawfulHost H]

omit [LawfulHost H] in
/-- The origin and the style that a scope saves. -/
theorem saved_enter {a : Surroundings H} {h : H} (hhost : a.host = some h) :
    a.enter.1 = ⟨Host.origin h, Host.style h⟩ := by
  unfold enter
  rw [hhost]

/-- The host has the saved origin and style at the end of a scope. -/
theorem current_leave (a : Surroundings H) (saved : Saved) :
    (a.leave saved).current = a.host.map fun _ => (saved.origin, saved.style) := by
  unfold current leave
  rw [host_onHost, Option.map_map]
  congr 1
  funext h
  simp only [Function.comp, LawfulHost.origin_setStyle, LawfulHost.origin_setOrigin,
    LawfulHost.style_setStyle]

/-- The origin under which a run in a scope begins. -/
def originIn (current : Origin) (o : Origin) : Origin := if o = .dontChange then current else o

/-- A run in a scope begins with the normal style, and under the origin it was given. -/
theorem current_setOrigin_enter (a : Surroundings H) (o : Origin) :
    (a.enter.2.setOrigin o).current = a.current.map fun c => (originIn c.1 o, .normal) := by
  unfold setOrigin originIn
  by_cases ho : o = .dontChange
  · simp only [if_pos ho]
    unfold current enter
    rw [host_onHost, Option.map_map, Option.map_map]
    congr 1
    funext h
    simp only [Function.comp, LawfulHost.origin_setStyle, LawfulHost.style_setStyle]
  · simp only [if_neg ho]
    unfold current enter
    rw [host_onHost, host_onHost, Option.map_map, Option.map_map, Option.map_map]
    congr 1
    funext h
    simp only [Function.comp, LawfulHost.origin_setOrigin, LawfulHost.style_setOrigin,
      LawfulHost.style_setStyle]

end Surroundings

namespace Operation

variable {H α : Type} [Host H] [LawfulHost H]

/-- The origin and the style of the host that is attached. -/
abbrev current (s : Session H) : Option (Origin × NoteStyle) := s.around.current

omit [LawfulHost H] in
/-- A change of the host that leaves its origin and its style alone is not seen. -/
theorem keeps_current_onHost {f : H → H} (horigin : ∀ h, Host.origin (f h) = Host.origin h)
    (hstyle : ∀ h, Host.style (f h) = Host.style h) :
    Keeps current (onAround (·.onHost f) : OperationOn H Unit) := by
  refine keeps_onAround fun s => ?_
  unfold current Surroundings.current
  rw [Surroundings.host_onHost, Option.map_map]
  congr 1
  funext h
  simp only [Function.comp, horigin, hstyle]

/-- A report may write to the console and decide where errors go; it touches neither the origin nor
the style. -/
theorem keeps_current_report (event : String) (context : Option CallContext)
    (description : String) :
    Keeps current (report event context description : OperationOn H Unit) := by
  have hunseen : Reporter.Unseen (fun h : H => (Host.origin h, Host.style h)) := by
    refine ⟨⟨?_, ?_⟩, ?_, ?_⟩ <;> intros <;>
      simp only [LawfulHost.origin_note, LawfulHost.style_note, LawfulHost.origin_tell,
        LawfulHost.style_tell, LawfulHost.origin_showErrorLines,
        LawfulHost.style_showErrorLines, LawfulHost.origin_routeErrors,
        LawfulHost.style_routeErrors]
  intro s
  exact hunseen.report s.engine.reporter event context description s.around

/-- A trace keeps the origin and the style. -/
theorem keeps_current_traceDispatch (r : Request) :
    Keeps current (traceDispatch r : OperationOn H Unit) :=
  keeps_traceDispatch
    (fun _ => keeps_current_onHost (LawfulHost.origin_trace _) (LawfulHost.style_trace _)) r

/-- A scope puts back the origin and the style, whatever is done in it. -/
theorem keeps_current_inScope {op : OperationOn H α} (h : Keeps Session.footing op) :
    Keeps current (inScope op) := by
  intro s
  have hattached : (s.entered.after op).around.host.isSome = s.around.host.isSome := by
    have hfooting := congrArg Footing.attached (h s.entered)
    have hentered : s.entered.around.host.isSome = s.around.host.isSome := by
      simp [Session.entered, Surroundings.enter]
    exact hfooting.trans hentered
  have hleft : current (s.after (inScope op)) =
      ((s.entered.after op).around.leave s.around.enter.1).current := by
    rw [Session.after_inScope]
  -- What was saved is put back only if a host is still attached, as the footing says.
  rw [hleft, Surroundings.current_leave]
  unfold current Surroundings.current
  cases hhost : s.around.host with
  | none =>
    rw [hhost, Option.isSome_none, Option.isSome_eq_false_iff, Option.isNone_iff_eq_none]
      at hattached
    rw [hattached]
    rfl
  | some d =>
    rw [hhost] at hattached
    obtain ⟨d', hd'⟩ := Option.isSome_iff_exists.mp hattached
    rw [hd', Surroundings.saved_enter hhost]
    rfl

/-- What is done on the side never touches the origin or the style. -/
theorem unnoted_current : Unnoted (current : Session H → Option (Origin × NoteStyle)) where
  count _ := keeps_onEngine fun _ => rfl
  log _ := keeps_onAround fun _ => rfl
  report event context description := keeps_current_report event context description
  time := keeps_current_onHost LawfulHost.origin_addTime LawfulHost.style_addTime

/-- A dispatch leaves the host with the origin and the style it had, whichever way it goes. -/
theorem keeps_current_callSite (token : Token) (r : Request) (arguments : Machine (List Value))
    (counter : Nat) :
    Keeps current
      (callSite token r arguments counter : OperationOn H (Dispatched (List Value))) :=
  unnoted_current.callSite (keeps_current_traceDispatch r)
    (fun live => keeps_current_inScope
      (inner_footing.runSite unnoted_footing.count live r arguments)) token counter

/-- The sandbox script leaves the host with the origin and the style it had. -/
theorem keeps_current_runSandbox : Keeps current (runSandbox : OperationOn H Unit) := by
  refine leads_runSandbox (R := fun s t => current t = current s) (fun _ => rfl)
    fun live source => keeps_current_inScope ?_
  refine keeps_bind (inner_footing.setOrigin _) fun _ => ?_
  exact keeps_map (unnoted_footing.runSource inner_footing live source sandboxLabel) _

/-! ## Calls of the host enter functions -/

omit [LawfulHost H] in
/-- A protected call lets happen to the surroundings what was done in its run. -/
theorem around_runProtected (s : Session H) (live : Live)
    (m : Machine (Except String (List Value))) :
    (s.after (runProtected live m)).around =
      s.around.undergo (Machine.run m (live.vm.among s.around.files)).2 := by
  unfold runProtected
  rw [Session.after_bind, Session.after_bind]
  cases (s.answer (runOn live.vm m)).1 <;> rfl

omit [LawfulHost H] in
/-- A protected call leaves the engine the machine of its run, and nothing else. -/
theorem engine_runProtected {s : Session H} {live : Live} (hlive : s.engine.live = some live)
    (m : Machine (Except String (List Value))) :
    (s.after (runProtected live m)).engine =
      { s.engine with
        live := some { live with
          vm := (Machine.run m (live.vm.among s.around.files)).2.settled } } := by
  have hput : ((s.after (runOn live.vm m)).after
      (putVm (s.answer (runOn live.vm m)).2)).engine =
        { s.engine with
          live := some { live with
            vm := (Machine.run m (live.vm.among s.around.files)).2.settled } } := by
    unfold putVm
    rw [Session.after_onEngine, Session.after_runOn, Session.answer_runOn]
    simp [hlive]
  unfold runProtected
  rw [Session.after_bind, Session.after_bind]
  cases (s.answer (runOn live.vm m)).1 <;> exact hput

omit [LawfulHost H] in
/-- A protected call gives what its run gives. -/
theorem answer_runProtected {live : Live} {m : Machine (Except String (List Value))}
    {answer : Except String (List Value)} {vm : Vm} {s : Session H}
    (h : Machine.run m (live.vm.among s.around.files) = (.ok answer, vm)) :
    s.answer (runProtected live m) = answer := by
  rw [answer_runProtected_eq, h]
  rfl

omit [LawfulHost H] in
/-- The call of a source makes its function first, with the next identity. -/
theorem exists_callCode_eq (live : Live) (code : Code) :
    ∃ m, callCode (H := H) live code = runProtected live m ∧ ∀ files,
      Machine.run m (live.vm.among files) =
        Machine.run (live.invoker.call ⟨live.vm.nextId, .script code⟩ [])
          { live.vm.among files with nextId := live.vm.nextId + 1 } :=
  ⟨_, rfl, fun _ => Machine.run_bind_of_ok (Machine.run_modifyGet _ _) _⟩

/-- The origin and the style that the host has at the point of a run at which the machine is
`vm`. -/
def currentAt (s : Session H) (vm : Vm) : Option (Origin × NoteStyle) :=
  (s.around.applyAll vm.effects).current

omit [LawfulHost H] in
/-- Before a run has had an effect the host has the origin and the style that the session has. -/
theorem currentAt_of_journal {vm : Vm} (h : vm.journal = []) (s : Session H) :
    currentAt s vm = current s := by
  unfold currentAt Store.effects
  rw [h]
  rfl

/-- A call of the host in a session enters a function in a machine, at an origin and a style: it
comes to what the function comes to that begins in this machine, and what is done in that run
happens to the surroundings that the session has. -/
structure Enters (s : Session H) (call : OperationOn H (Except String (List Value)))
    (f : Function) (args : List Value) (vm : Vm) (c : Option (Origin × NoteStyle)) : Prop where
  entered : currentAt s vm = c
  returned : ∀ values vm', Machine.run (protectedRun f args) vm = (.ok values, vm') →
    s.answer call = .ok values ∧ (s.after call).around = s.around.undergo vm'
  failed : ∀ e vm', Machine.run (protectedRun f args) vm = (.error e, vm') →
    ∃ (text : String) (vm'' : Vm), s.answer call = .error text ∧
      (s.after call).around = s.around.undergo vm''

omit [LawfulHost H] in
/-- A protected call whose run is a call through the functions for protected calls enters the
function, if no function runs in the lookup of the handler. -/
theorem enters_runProtected {live : Live} {m : Machine (Except String (List Value))}
    {f : Function} {args : List Value} {vm : Vm} {s : Session H} (hgenuine : live.invoker.Genuine)
    (hrun : Machine.run m (live.vm.among s.around.files) =
      Machine.run (live.invoker.call f args) vm)
    (hjournal : vm.journal = []) (hquiet : vm.peek "debug.traceback" ≠ none) :
    Enters s (runProtected live m) f args vm (current s) := by
  obtain ⟨hok, herror⟩ := Invoker.run_call_of_genuine hgenuine f args vm
  -- The lookup of the handler runs nothing, so the function begins in `vm` itself.
  rw [Invoker.begun_of_peek hquiet] at hok herror
  refine ⟨currentAt_of_journal hjournal s, ?_, ?_⟩
  · intro values vm' hvalues
    have hcall := hrun.trans (hok values vm' hvalues)
    refine ⟨answer_runProtected hcall, ?_⟩
    rw [around_runProtected, hcall]
  · intro e vm' hfail
    obtain ⟨shown, vm'', -, hshown⟩ := herror e vm' hfail
    have hcall := hrun.trans hshown
    refine ⟨_, vm'', answer_runProtected hcall, ?_⟩
    rw [around_runProtected, hcall]

/-! ## The function of a dispatch -/

/-- What a dispatch does in its scope before it calls the function. -/
def approach (live : Live) (r : Request) : OperationOn H Unit := do
  putVm live.vm.settled
  onAround (·.setOrigin r.source)
  count fun s => { s with protectedCalls := s.protectedCalls + 1 }

/-- The session in which a dispatch calls the function. -/
def atCall (s : Session H) (live : Live) (r : Request) : Session H :=
  (s.after (traceDispatch r)).entered.after (approach live r)

omit [LawfulHost H] in
/-- A dispatch comes to its call with the files that it began with. -/
theorem files_atCall (s : Session H) (live : Live) (r : Request) :
    (atCall s live r).around.files = s.around.files :=
  (Surroundings.files_setOrigin _ r.source).trans (files_traceDispatch s r)

/-- At the call of a dispatch the style is normal, and the origin that of the request. -/
theorem current_atCall (s : Session H) (live : Live) (r : Request) :
    current (atCall s live r) =
      (current s).map fun c => (Surroundings.originIn c.1 r.source, .normal) := by
  have htraced : current (s.after (traceDispatch r)) = current s := keeps_current_traceDispatch r s
  rw [← htraced]
  exact Surroundings.current_setOrigin_enter (s.after (traceDispatch r)).around r.source

omit [LawfulHost H] in
/-- A run of a site whose function is found without a function being asked calls that function. -/
theorem runSite_of_peek {live : Live} {r : Request} {f : Function} (s : Session H)
    (arguments : Machine (List Value))
    (h : live.vm.settled.peek r.procedure = some (some (.function f))) :
    s.after (runSite live r arguments) =
      (s.after (approach live r)).after
        (callFunction { live with vm := live.vm.settled } f arguments) ∧
    s.answer (runSite live r arguments) =
      SiteRun.ofCall ((s.after (approach live r)).answer
        (callFunction { live with vm := live.vm.settled } f arguments)) := by
  have hlookup : Machine.run (lookupFunction r.procedure) (live.vm.among s.around.files) =
      (.ok (some f), live.vm.among s.around.files) :=
    run_lookupFunction_of_peek ((live.vm.peek_among _ _).trans h)
  have hanswer := answer_findFunction hlookup
  have hafter : s.after (findFunction live r.procedure) = s.after (putVm live.vm.settled) := by
    unfold findFunction
    rw [Session.after_bind, Session.answer_runOn, Session.after_runOn, hlookup,
      Surroundings.undergo_among]
    rfl
  unfold runSite
  rw [Session.after_bind, Session.answer_bind, hanswer, hafter]
  exact ⟨rfl, rfl⟩

omit [LawfulHost H] in
/-- A dispatch whose function is found without a function being asked comes to what its call comes
to, and puts the origin and the style back between the call and its conclusion. -/
theorem callSite_of_peek {live : Live} {token : Token} {r : Request} {f : Function}
    {s : Session H} (arguments : Machine (List Value)) (counter : Nat)
    (hlive : s.engine.live = some live)
    (hb : (token.sync s.engine.generation).isBroken = false)
    (hfound : live.vm.settled.peek r.procedure = some (some (.function f))) :
    let call := callFunction { live with vm := live.vm.settled } f arguments
    let came := SiteRun.ofCall ((atCall s live r).answer call)
    s.after (callSite token r arguments counter) =
      (((atCall s live r).after call).after
        (onAround (·.leave (s.after (traceDispatch r)).around.enter.1))).after
          (concludeSite (token.sync s.engine.generation) r counter came) ∧
    s.answer (callSite token r arguments counter) =
      came.dispatched (token.sync s.engine.generation) r counter := by
  intro call came
  obtain ⟨hafter, hanswer⟩ := callSite_of_open r arguments counter hlive hb
  obtain ⟨hrunAfter, hrunAnswer⟩ :=
    runSite_of_peek (s.after (traceDispatch r)).entered arguments hfound
  have hscopedAfter : s.after (scopedRun live r arguments) =
      ((atCall s live r).after call).after
        (onAround (·.leave (s.after (traceDispatch r)).around.enter.1)) := by
    unfold scopedRun
    rw [Session.after_bind, Session.after_inScope, hrunAfter]
    rfl
  have hscopedAnswer : s.answer (scopedRun live r arguments) = came := by
    unfold scopedRun
    rw [Session.answer_bind, Session.answer_inScope, hrunAnswer]
    rfl
  rw [hafter, hanswer, hscopedAfter, hscopedAnswer, answer_concludeSite]
  exact ⟨rfl, rfl⟩

/-- The arguments with which a dispatch or a dispatch of a text calls a function. -/
def Passes (r : Request) (arguments : Machine (List Value)) : Prop :=
  arguments = r.arguments ∨ ∃ text, arguments = pure (textArguments text)

/-- The arguments of a dispatch are made, and nothing outside is touched. -/
theorem run_of_passes {r : Request} {arguments : Machine (List Value)} (h : Passes r arguments)
    (vm : Vm) :
    ∃ args vm', Machine.run arguments vm = (.ok args, vm') ∧ vm'.journal = vm.journal := by
  rcases h with rfl | ⟨text, rfl⟩
  · obtain ⟨tables, vm', hrun, hgrows, -⟩ := r.arguments_spec vm
    exact ⟨_, vm', hrun, hgrows.journal⟩
  · exact ⟨textArguments text, vm, Machine.run_pure _ vm, rfl⟩

/-- A dispatch whose lookups ask no function enters the function with the normal style and under
the origin of the request. -/
theorem enters_callFunction {live : Live} {r : Request} {f : Function} {args : List Value}
    {vm : Vm} {arguments : Machine (List Value)} (s : Session H) (hgenuine : live.invoker.Genuine)
    (hpasses : Passes r arguments)
    (hrun : Machine.run arguments (live.vm.among s.around.files) = (.ok args, vm))
    (hquiet : vm.peek "debug.traceback" ≠ none) :
    Enters (atCall s live r) (callFunction { live with vm := live.vm.settled } f arguments) f args
      vm ((current s).map fun c => (Surroundings.originIn c.1 r.source, .normal)) := by
  have hjournal : vm.journal = [] := by
    obtain ⟨args', vm', hrun', hjournal⟩ := run_of_passes hpasses (live.vm.among s.around.files)
    rw [hrun] at hrun'
    cases hrun'
    exact hjournal
  rw [← files_atCall s live r] at hrun
  rw [← current_atCall s live r]
  exact enters_runProtected hgenuine (Machine.run_bind_of_ok hrun _) hjournal hquiet

/-! ## The sandbox script -/

/-- The session in which the sandbox script is called. -/
def atSandbox (s : Session H) : Session H :=
  (s.entered.after (onAround (·.setOrigin .sandbox))).after
    (count fun c => { c with protectedCalls := c.protectedCalls + 1 })

/-- At the call of the sandbox script the style is normal, and the origin its own. -/
theorem current_atSandbox (s : Session H) :
    current (atSandbox s) = (current s).map fun _ => (.sandbox, .normal) :=
  Surroundings.current_setOrigin_enter s.around .sandbox

omit [LawfulHost H] in
/-- A sandbox script that loads is called, and its run concluded, before the origin and the style
are put back. -/
theorem after_runSandbox {live : Live} {source : List Step} {code : Code} {s : Session H}
    (hlive : s.engine.live = some live) (hsandbox : s.engine.settings.sandbox = some source)
    (hload : load (textBytes sandboxLabel) source = .ok code) :
    s.after runSandbox =
      (((atSandbox s).after (callCode live code)).after
        (concludeSource sandboxLabel ((atSandbox s).answer (callCode live code)))).after
          (onAround (·.leave s.around.enter.1)) := by
  have hsource : ∀ t : Session H, t.after (runSource live source sandboxLabel) =
      (t.after (count fun c => { c with protectedCalls := c.protectedCalls + 1 })).after (do
        concludeSource sandboxLabel (← callCode live code)) := by
    intro t
    rw [runSource_of_ok hload, Session.after_bind]
  unfold runSandbox
  rw [Session.after_bind, Session.answer_get, Session.after_get]
  dsimp only
  rw [hsandbox, hlive]
  dsimp only
  rw [Session.after_inScope, Session.after_bind, Session.after_discard, hsource,
    Session.after_bind, Session.after_onAround _ (·.leave _)]
  rfl

/-- A sandbox script is entered with the normal style and under the origin of its own, if no
function runs in the lookup of the handler. -/
theorem enters_callCode {live : Live} {code : Code} (s : Session H)
    (hgenuine : live.invoker.Genuine)
    (hquiet : Vm.peek { live.vm.among s.around.files with nextId := live.vm.nextId + 1 }
      "debug.traceback" ≠ none) :
    Enters (atSandbox s) (callCode live code) ⟨live.vm.nextId, .script code⟩ []
      { live.vm.among s.around.files with nextId := live.vm.nextId + 1 }
      ((current s).map fun _ => (.sandbox, .normal)) := by
  have hfiles : (atSandbox s).around.files = s.around.files := rfl
  obtain ⟨m, hcode, hmade⟩ := exists_callCode_eq (H := H) live code
  rw [← current_atSandbox s, hcode]
  rw [← hfiles] at hquiet ⊢
  exact enters_runProtected hgenuine (hmade _) rfl hquiet

/-! ## Nothing leaks -/

/-- The state of the host never leaks out of a dispatch, of either kind, or out of the sandbox
script: whatever scripts do and whichever way it goes, the origin and the style afterwards are those
before. Where the lookups ask no function, and the functions for protected calls are the machine's
own, the function that is called begins with the normal style and under the origin of the request,
or under its own if it is the sandbox script; the dispatch comes to what that call comes to. -/
theorem host_state_never_leaks (s : Session H) :
    (∀ token r counter, current (s.after (dispatch token r counter)) = current s) ∧
    (∀ token r text counter,
      current (s.after (dispatchText token r text counter)) = current s) ∧
    current (s.after runSandbox) = current s ∧
    (∀ live token r f arguments counter, s.engine.live = some live → live.invoker.Genuine →
      (token.sync s.engine.generation).isBroken = false →
      live.vm.settled.peek r.procedure = some (some (.function f)) → Passes r arguments →
      ∃ args vm, Machine.run arguments (live.vm.among s.around.files) = (.ok args, vm) ∧
        (vm.peek "debug.traceback" ≠ none →
          let call := callFunction { live with vm := live.vm.settled } f arguments
          let came := SiteRun.ofCall ((atCall s live r).answer call)
          Enters (atCall s live r) call f args vm
            ((current s).map fun c => (Surroundings.originIn c.1 r.source, .normal)) ∧
          s.after (callSite token r arguments counter) =
            (((atCall s live r).after call).after
              (onAround (·.leave (s.after (traceDispatch r)).around.enter.1))).after
                (concludeSite (token.sync s.engine.generation) r counter came) ∧
          s.answer (callSite token r arguments counter) =
            came.dispatched (token.sync s.engine.generation) r counter)) ∧
    (∀ live source code, s.engine.live = some live → live.invoker.Genuine →
      s.engine.settings.sandbox = some source → load (textBytes sandboxLabel) source = .ok code →
      let vm : Vm := { live.vm.among s.around.files with nextId := live.vm.nextId + 1 }
      vm.peek "debug.traceback" ≠ none →
        Enters (atSandbox s) (callCode live code) ⟨live.vm.nextId, .script code⟩ [] vm
          ((current s).map fun _ => (.sandbox, .normal)) ∧
        s.after runSandbox =
          (((atSandbox s).after (callCode live code)).after
            (concludeSource sandboxLabel ((atSandbox s).answer (callCode live code)))).after
              (onAround (·.leave s.around.enter.1))) := by
  refine ⟨?_, ?_, keeps_current_runSandbox s, ?_, ?_⟩
  · intro token r counter
    exact keeps_map (keeps_current_callSite token r r.arguments counter) _ s
  · intro token r text counter
    exact keeps_map (keeps_current_callSite token r (pure (textArguments text)) counter) _ s
  · intro live token r f arguments counter hlive hgenuine hb hfound hpasses
    obtain ⟨args, vm, hrun, -⟩ := run_of_passes hpasses (live.vm.among s.around.files)
    refine ⟨args, vm, hrun, fun hquiet => ?_⟩
    exact ⟨enters_callFunction s hgenuine hpasses hrun hquiet,
      callSite_of_peek arguments counter hlive hb hfound⟩
  · intro live source code hlive hgenuine hsandbox hload vm hquiet
    exact ⟨enters_callCode s hgenuine hquiet, after_runSandbox hlive hsandbox hload⟩

/-- A new machine in which scripts can change the origin of the host. -/
def meddling : Live where
  vm := { Vm.fresh with
    tables := Vm.fresh.tables.modify Vm.globals
      (·.set (.text "set_source") (.function ⟨2000, .native (.host .setSource)⟩)) }
  invoker := ⟨⟨114, .native (.basic .xpcall)⟩, ⟨103, .native (.basic .pcall)⟩⟩

/-- An engine with that machine, and a document that is typed in, in bold. -/
def meddled : Session where
  engine := { Engine.new .default .none .log "" with live := some meddling, generation := 1 }
  index := .empty
  around := .fresh (some { Document.new "world" with origin := .userTyping, style := .bold })

/-- A trigger that calls the routine. -/
def meddle : Request := (Request.new "set_source" "trigger" "").withSource .triggerFired

/-- A trigger begins in its own style and under its own origin, changes the origin, and leaves both
as they were. -/
theorem host_state_never_leaks_meddled :
    Enters (atCall meddled meddling meddle)
      (callFunction meddling ⟨2000, .native (.host .setSource)⟩
        (pure (textArguments (textBytes "sandbox"))))
      ⟨2000, .native (.host .setSource)⟩ (textArguments (textBytes "sandbox")) meddling.vm
      (some (.triggerFired, .normal)) ∧
    current ((atCall meddled meddling meddle).after
      (callFunction meddling ⟨2000, .native (.host .setSource)⟩
        (pure (textArguments (textBytes "sandbox"))))) = some (.sandbox, .normal) ∧
    current (meddled.after (dispatchText .fresh meddle (textBytes "sandbox") 0)) =
      some (.userTyping, .bold) := by
  obtain ⟨-, htext, -, henters, -⟩ := host_state_never_leaks meddled
  have hfound : meddling.vm.settled.peek "set_source" =
      some (some (.function ⟨2000, .native (.host .setSource)⟩)) := by
    rfl
  have hquiet : meddling.vm.peek "debug.traceback" ≠ none := by
    have htraceback : (meddling.vm.peek "debug.traceback").isSome = true := by
      decide +kernel
    exact Option.isSome_iff_ne_none.mp htraceback
  obtain ⟨args, vm, hrun, hlater⟩ := henters meddling .fresh meddle _
    (pure (textArguments (textBytes "sandbox"))) 0 rfl ⟨rfl, rfl⟩ rfl hfound (.inr ⟨_, rfl⟩)
  cases hrun
  obtain ⟨hcall, -, -⟩ := hlater hquiet
  refine ⟨hcall, ?_, htext .fresh meddle (textBytes "sandbox") 0⟩
  have hreturned := hcall.returned [] _ rfl
  exact congrArg Surroundings.current hreturned.2

end Operation

end EventScripts
