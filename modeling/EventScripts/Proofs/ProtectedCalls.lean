import EventScripts.Proofs.EngineRuns
import EventScripts.Proofs.Opening

/-!
# Protected calls tell truly what a function did

The host calls functions through the functions for protected calls that were taken when the machine
was opened. If these are the machine's own `xpcall` and `pcall`, a call gives results exactly when
the function returns them, and the text of an error exactly when an error escapes the function;
this does not depend on what scripts have done to the global variables since, on whether there was
a handler, or on what the handler did. A result of the function that looks like a failure, such as
`false` and a message, is still a result, because the status stands in front of all results.

The function runs from native code that was called from outside, in the machine that looking up
`debug.traceback` left. After a call that gives results the machine is the one that the function
left.
-/

set_option autoImplicit false

namespace EventScripts

namespace Script

/-- The run of a function in a protected call of the host. -/
def protectedRun (f : Function) (args : List Value) : Machine (List Value) :=
  invokeTo (depthLimit - 1) Site.outside.inner f args

/-! ## The machine's own protected calls -/

/-- A function that is one of the basic ones runs as it. -/
theorem body_of_basic {f : Function} {b : Basic} (h : f.basic? = some b) :
    f.body = .native (.basic b) := by
  unfold Function.basic? at h
  split at h
  · cases h
    assumption
  · cases h

/-- A function of the standard library that is called from outside has one call less to go. -/
theorem callOutside_basic {f : Function} {b : Basic} (h : f.basic? = some b)
    (args : List Value) :
    callOutside f args = b.run (invokeTo (depthLimit - 1)) .outside args := by
  unfold callOutside
  rw [invoke_outside, body_of_basic h]
  rfl

/-- Showing an error value to a handler comes to a value, whatever the handler does. -/
theorem run_handled (call : Caller) (site : Site) (handler : Value) (rounds : Nat) (e : Value)
    (vm : Vm) : ∃ v vm', Machine.run (handled call site handler rounds e) vm = (.ok v, vm') := by
  induction rounds generalizing site e vm with
  | zero => exact ⟨handlingFailed, vm, Machine.run_pure _ vm⟩
  | succ rounds ih =>
    unfold handled
    rw [Machine.run_bind_of_ok (Machine.run_outcome _ vm)]
    split
    · exact ⟨_, _, Machine.run_pure _ _⟩
    · exact ih _ _ _

/-- A computation that guards the run of a function returns the results of the function after
`true`, in the machine that the function left, or `false` and what the error that escapes the
function is shown as. -/
def Guards (shows : Value → Value → Prop) (m : Machine (List Value)) (f : Function)
    (args : List Value) : Prop :=
  ∀ vm,
    (∀ values vm', Machine.run (protectedRun f args) vm = (.ok values, vm') →
      Machine.run m vm = (.ok (.boolean true :: values), vm')) ∧
    (∀ e vm', Machine.run (protectedRun f args) vm = (.error e, vm') →
      ∃ shown vm'', shows e shown ∧ Machine.run m vm = (.ok [.boolean false, shown], vm''))

/-- What an error is shown as by a handler: by the machine's own function for traces, as its message
with a trace. -/
def Traces (handler : Function) (e shown : Value) : Prop :=
  handler.basic? = some .traceback → shown = Value.head (tracedMessage [e])

/-- `pcall` guards the function that it is given. -/
theorem guards_pcall {p : Function} (h : p.basic? = some .pcall) (f : Function)
    (args : List Value) :
    Guards (fun e shown => shown = e) (callOutside p (.function f :: args)) f args := by
  intro vm
  have hargument : Machine.run
      (anyArgument .outside "pcall" 1 (.function f :: args)) vm = (.ok (.function f), vm) :=
    Machine.run_pure _ vm
  have hcalled : Machine.run (Machine.callValue (invokeTo (depthLimit - 1)) Site.outside.inner
      (.function f) (Value.function f :: args).tail) vm = Machine.run (protectedRun f args) vm :=
    Machine.run_callValue_function _ _ f args vm
  rw [callOutside_basic h]
  unfold Basic.run
  rw [Machine.run_bind_of_ok hargument, Machine.run_bind_of_ok (Machine.run_outcome _ vm), hcalled]
  constructor
  · intro values vm' hrun
    rw [hrun]
    exact Machine.run_pure _ vm'
  · intro e vm' hrun
    rw [hrun]
    exact ⟨e, vm', rfl, Machine.run_pure _ vm'⟩

/-- The machine's own function for traces shows an error value as its message with a trace. -/
theorem run_handled_of_traceback {handler : Function} (h : handler.basic? = some .traceback)
    (e : Value) (vm : Vm) :
    Machine.run (handled (invokeTo (depthLimit - 1)) .outside (.function handler)
      (nestedReserve - Site.outside.nested - 1) e) vm =
        (.ok (Value.head (tracedMessage [e])), vm) := by
  have hcalled : ∀ site : Site, site.nested = 3 →
      Machine.run (Machine.callValue (invokeTo (depthLimit - 1)) site (.function handler) [e]) vm =
        (.ok (tracedMessage [e]), vm) := by
    intro site hnested
    have hlimit : ¬ site.nested = nestedLimit := by
      rw [hnested]
      decide
    have hreserve : ¬ nestedReserve ≤ site.nested := by
      rw [hnested]
      decide
    rw [Machine.run_callValue_function, show depthLimit - 1 = 998 + 1 from rfl]
    unfold invokeTo
    rw [if_neg hlimit, if_neg hreserve, body_of_basic h]
    rfl
  have hrounds : nestedReserve - Site.outside.nested - 1 = 217 + 1 := rfl
  rw [hrounds]
  unfold handled
  rw [Machine.run_bind_of_ok (Machine.run_outcome _ vm), hcalled _ rfl]
  exact Machine.run_pure _ vm

/-- `xpcall` guards the function that it is given; the handler has its say only after an error. -/
theorem guards_xpcall {p : Function} (h : p.basic? = some .xpcall) (f handler : Function)
    (args : List Value) :
    Guards (Traces handler) (callOutside p (.function f :: .function handler :: args)) f args := by
  intro vm
  have hargument : Machine.run
      (functionArgument .outside "xpcall" 2 (.function f :: .function handler :: args)) vm =
        (.ok (.function handler), vm) :=
    Machine.run_pure _ vm
  have hcalled : Machine.run (Machine.callValue (invokeTo (depthLimit - 1)) Site.outside.inner
      (Value.head (.function f :: .function handler :: args))
      ((Value.function f :: .function handler :: args).drop 2)) vm =
        Machine.run (protectedRun f args) vm :=
    Machine.run_callValue_function _ _ f args vm
  rw [callOutside_basic h]
  unfold Basic.run
  rw [Machine.run_bind_of_ok hargument, Machine.run_bind_of_ok (Machine.run_outcome _ vm), hcalled]
  constructor
  · intro values vm' hrun
    rw [hrun]
    exact Machine.run_pure _ vm'
  · intro e vm' hrun
    rw [hrun]
    obtain ⟨shown, vm'', hshown⟩ := run_handled (invokeTo (depthLimit - 1)) .outside
      (.function handler) (nestedReserve - Site.outside.nested - 1) e vm'
    refine ⟨shown, vm'', fun hown => ?_, ?_⟩
    · rw [run_handled_of_traceback hown] at hshown
      cases hshown
      rfl
    · dsimp only
      rw [Machine.run_bind_of_ok hshown, Machine.run_pure]

namespace Invoker

/-! ## Calls of the host -/

/-- The machine in which the function of a protected call begins to run. -/
def begun (vm : Vm) : Vm := (Machine.run (lookupFunction "debug.traceback") vm).2

/-- A lookup in which no function runs leaves the function the machine as it was. -/
theorem begun_of_peek {vm : Vm} (h : vm.peek "debug.traceback" ≠ none) : begun vm = vm := by
  obtain ⟨r, hr⟩ := Option.ne_none_iff_exists'.mp h
  unfold begun
  rw [run_lookupFunction_of_peek hr]

/-- What an error that escapes a function called in a machine is shown as: itself, if there is no
handler when the call starts. -/
def Shows (vm : Vm) (e shown : Value) : Prop :=
  match (Machine.run (lookupFunction "debug.traceback") vm).1 with
  | .ok (some handler) => Traces handler e shown
  | _ => shown = e

/-- A guarded call of the host reads the status and the results apart. -/
theorem run_call_of_genuine {inv : Invoker} (h : inv.Genuine) (f : Function) (args : List Value)
    (vm : Vm) :
    (∀ values vm', Machine.run (protectedRun f args) (begun vm) = (.ok values, vm') →
      Machine.run (inv.call f args) vm = (.ok (.ok values), vm')) ∧
    (∀ e vm', Machine.run (protectedRun f args) (begun vm) = (.error e, vm') →
      ∃ shown vm'', Shows vm e shown ∧
        Machine.run (inv.call f args) vm = (.ok (.error (describeError (some shown))), vm'')) := by
  obtain ⟨handler, vm₁, hlookup⟩ := run_lookupFunction "debug.traceback" vm
  have hbegun : begun vm = vm₁ := by
    unfold begun
    rw [hlookup]
  -- The call reads the results of a function that guards the run.
  have hguarded : ∃ m, Guards (Shows vm) m f args ∧
      ∀ results vm', Machine.run m vm₁ = (.ok results, vm') →
        Machine.run (inv.call f args) vm = (.ok (readResults results), vm') := by
    unfold call Shows
    rw [Machine.run_bind_of_ok hlookup, hlookup]
    cases handler with
    | none =>
      refine ⟨_, guards_pcall h.pcall f args, fun _ vm' hm => ?_⟩
      exact (Machine.run_bind_of_ok (Machine.run_orFault_of_ok hm) _).trans
        (Machine.run_pure _ vm')
    | some handler =>
      refine ⟨_, guards_xpcall h.xpcall f handler args, fun _ vm' hm => ?_⟩
      exact (Machine.run_bind_of_ok (Machine.run_orFault_of_ok hm) _).trans
        (Machine.run_pure _ vm')
  obtain ⟨m, hguards, hcall⟩ := hguarded
  rw [hbegun]
  constructor
  · intro values vm' hrun
    exact hcall _ vm' ((hguards vm₁).1 values vm' hrun)
  · intro e vm' hrun
    obtain ⟨shown, vm'', hshows, hfailed⟩ := (hguards vm₁).2 e vm' hrun
    exact ⟨shown, vm'', hshows, hcall _ vm'' hfailed⟩

/-- A call gives results exactly when the function returns them, and leaves the machine that the
function left. -/
theorem call_ok_iff {inv : Invoker} (h : inv.Genuine) (f : Function) (args values : List Value)
    (vm vm' : Vm) :
    Machine.run (inv.call f args) vm = (.ok (.ok values), vm') ↔
      Machine.run (protectedRun f args) (begun vm) = (.ok values, vm') := by
  obtain ⟨hok, herror⟩ := run_call_of_genuine h f args vm
  constructor
  · intro hcall
    rcases hrun : Machine.run (protectedRun f args) (begun vm) with ⟨e | results, vm₁⟩
    · obtain ⟨shown, vm₂, -, hfailed⟩ := herror e vm₁ hrun
      rw [hfailed] at hcall
      cases hcall
    · rw [hok results vm₁ hrun] at hcall
      cases hcall
      rfl
  · exact hok values vm'

/-- A call gives the text of an error exactly when an error escapes the function. -/
theorem call_error_iff {inv : Invoker} (h : inv.Genuine) (f : Function) (args : List Value)
    (vm : Vm) :
    (∃ text vm', Machine.run (inv.call f args) vm = (.ok (.error text), vm')) ↔
      ∃ e vm', Machine.run (protectedRun f args) (begun vm) = (.error e, vm') := by
  obtain ⟨hok, herror⟩ := run_call_of_genuine h f args vm
  constructor
  · rintro ⟨text, vm', hcall⟩
    rcases hrun : Machine.run (protectedRun f args) (begun vm) with ⟨e | results, vm₁⟩
    · exact ⟨e, vm₁, rfl⟩
    · rw [hok results vm₁ hrun] at hcall
      cases hcall
  · rintro ⟨e, vm', hrun⟩
    obtain ⟨shown, vm'', -, hfailed⟩ := herror e vm' hrun
    exact ⟨_, vm'', hfailed⟩

end Invoker

end Script

namespace World

open Script

variable {H : Type} [Host H]

/-- The functions for protected calls stay those that were taken while the machine was made, before
any script ran in it. -/
theorem invoker_run {w : World H} {live now : Live} {actions : List (Action H)}
    (hclosed : w.isOpen = false) (hmade : w.session.answer Operation.prepare = .ok live)
    (hnone : (w.after .openEngine).makesMachineIn actions = false)
    (hnow : ((w.after .openEngine).run actions).session.engine.live = some now) :
    now.invoker = live.invoker := by
  have hopened : (w.after .openEngine).standing.invoker = some live.invoker :=
    congrArg Standing.invoker (Operation.standing_openEngine_of_ok hclosed hmade)
  have hafter : ((w.after .openEngine).run actions).standing.invoker = some now.invoker := by
    unfold standing Engine.standing
    rw [hnow]
    rfl
  rcases standing_run_of_makesNone hnone with hsame | hgone
  · rw [hsame, hopened] at hafter
    exact (Option.some.inj hafter).symm
  · rw [hgone] at hafter
    cases hafter

/-- Whatever scripts do to the global variables of a machine once it is open, the host's calls tell
truly what a function did. Let the functions for protected calls that were taken while the machine
was made be its own, as they are, whatever libraries and preloads are selected, if the host and its
openers left the machine untampered. Then after any actions that make no other machine, and in every
state of the machine, a call gives all results of the function exactly when the function returns
them, and the text of an error exactly when an error escapes it. One of the two always comes about.
The function begins in the machine as it was if no function runs in the lookup of the handler. -/
theorem protected_calls_tell_truly (w : World H) (live now : Live) (actions : List (Action H))
    (hclosed : w.isOpen = false) (hmade : w.session.answer Operation.prepare = .ok live)
    (hown : (∀ h, w.session.around.host = some h → Spares (Host.register h)) ∧
      w.session.engine.selection.Sparing ∨ live.invoker.Genuine)
    (hnone : (w.after .openEngine).makesMachineIn actions = false)
    (hnow : ((w.after .openEngine).run actions).session.engine.live = some now)
    (f : Function) (args : List Value) (vm : Vm) :
    (∀ values vm', Machine.run (now.invoker.call f args) vm = (.ok (.ok values), vm') ↔
      Machine.run (protectedRun f args) (Invoker.begun vm) = (.ok values, vm')) ∧
    ((∃ text vm', Machine.run (now.invoker.call f args) vm = (.ok (.error text), vm')) ↔
      ∃ e vm', Machine.run (protectedRun f args) (Invoker.begun vm) = (.error e, vm')) ∧
    (∃ answer vm', Machine.run (now.invoker.call f args) vm = (.ok answer, vm')) ∧
    (vm.peek "debug.traceback" ≠ none → Invoker.begun vm = vm) := by
  have hgenuine : live.invoker.Genuine :=
    hown.elim (fun h => Operation.genuine_prepare h.1 h.2 hmade) id
  rw [invoker_run hclosed hmade hnone hnow]
  refine ⟨fun values vm' => Invoker.call_ok_iff hgenuine f args values vm vm',
    Invoker.call_error_iff hgenuine f args vm, ?_, Invoker.begun_of_peek⟩
  obtain ⟨hok, herror⟩ := Invoker.run_call_of_genuine hgenuine f args vm
  rcases hrun : Machine.run (protectedRun f args) (Invoker.begun vm) with ⟨e | values, vm'⟩
  · obtain ⟨shown, vm'', -, hfailed⟩ := herror e vm' hrun
    exact ⟨.error _, vm'', hfailed⟩
  · exact ⟨.ok values, vm', hok values vm' hrun⟩

/-- A new engine for a document. -/
def hosted : World :=
  ⟨.new (.new .default .none .log "") (some (Document.new "world")), fun _ => .fresh⟩

/-- A script that takes away everything that protected calls seem to need. -/
def tampering : List Step :=
  ["pcall", "xpcall", "error", "debug"].map fun name => .setGlobal (textBytes name) .nil

/-- A function that returns what a failed protected call would. -/
def pretender : Function :=
  ⟨0, .script ⟨[], 1, [.leave [.boolean false, .string (textBytes "failed")]]⟩⟩

/-- The results of a function that pretends to have failed are its results, also after a script has
tampered with the global variables. -/
theorem protected_calls_tell_truly_tampered :
    ∃ now, ((hosted.after .openEngine).run
        [.execute tampering ""]).session.engine.live = some now ∧
      ∀ vm, Machine.run (now.invoker.call pretender []) vm =
        (.ok (.ok [.boolean false, .string (textBytes "failed")]), Invoker.begun vm) := by
  have hprepared : (hosted.session.answer Operation.prepare).isOk = true := by
    decide +kernel
  have hopen : ((hosted.after .openEngine).run
      [.execute tampering ""]).session.engine.live.isSome = true := by
    decide +kernel
  have hnone : (hosted.after .openEngine).makesMachineIn [.execute tampering ""] = false := by
    rw [makesMachineIn, makesMachineIn]
    rfl
  have hspares : ∀ h, hosted.session.around.host = some h → Spares (Host.register h) := by
    intro h hattached
    cases hattached
    exact Document.spares_register rfl
  have hopeners : hosted.session.engine.selection.Sparing := by
    intro library opener hopener
    cases hopener
  obtain ⟨now, hnow⟩ := Option.isSome_iff_exists.mp hopen
  refine ⟨now, hnow, fun vm => ?_⟩
  cases hmade : hosted.session.answer Operation.prepare with
  | error e =>
    rw [hmade] at hprepared
    cases hprepared
  | ok live =>
    have htruly := protected_calls_tell_truly hosted live now [.execute tampering ""] rfl hmade
      (.inl ⟨hspares, hopeners⟩) hnone hnow pretender [] vm
    exact (htruly.1 _ _).mpr rfl

end World

end EventScripts
