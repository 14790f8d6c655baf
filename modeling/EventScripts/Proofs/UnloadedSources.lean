import EventScripts.Proofs.CallAccounts
import EventScripts.Proofs.HostScope
import EventScripts.Proofs.NativeCalls
import EventScripts.Proofs.Reports
import EventScripts.Proofs.SourceFaults

/-!
# Sources that do not load

An open engine that is given a source which does not load counts it, reports it and answers with the
label and the message. That is all: since loading comes before the call, nothing of the source runs,
however much of it could, and neither the machine nor the origin and the style of the host are
touched.

A source that loads is called, once, in a protected call. If that fails the answer is a run-time
error, whatever its text says; so an answer that tells of a source which did not load is never about
one that ran. A closed engine refuses every source and tells nobody.
-/

set_option autoImplicit false

namespace EventScripts

open Script

/-- What is answered about the call of a source. -/
def SourceRun.answer (label : String) : Except String (List Value) → Except ScriptError Unit
  | .ok _ => .ok ()
  | .error message => .error (.runtime label message)

/-- The counts after the call of a source: one protected call, and its failure if it failed. -/
def Stats.addSourceCall (c : Stats) (answer : Except String (List Value)) : Stats :=
  { c with
    protectedCalls := c.protectedCalls + 1
    runtimeErrors := c.runtimeErrors + (!answer.isOk).toNat }

/-- The counts after a source that does not load. -/
def Stats.addUnloaded (c : Stats) : Stats :=
  { c with compileErrors := c.compileErrors + 1 }

/-- A report asks for no note. -/
theorem Reporter.notes_report {H : Type} [Host H] (r : Reporter) (event : String)
    (context : Option CallContext) (text : String) (a : Surroundings H) :
    (r.report event context text a).2.notes = a.notes := by
  unfold report
  dsimp only
  rw [(r.keep_frame _ _).2.2.1, (r.route_frame _ _).2]
  rfl

namespace Operation

variable {H : Type} [Host H] {s : Session H} {live : Live} {source : List Step} {label : String}

/-- Nothing is called of a source that does not load. -/
theorem attempt_of_error {e : LoadError} (hload : load (textBytes label) source = .error e) :
    (attempt live source label : OperationOn H SourceRun) = pure (.notLoaded e.message) := by
  unfold attempt
  rw [hload]

/-- A source that loads is called. -/
theorem called_attempt_of_ok {code : Code} (hload : load (textBytes label) source = .ok code) :
    (s.answer (attempt live source label)).called = true := by
  have hcalled : ∀ result, (SourceRun.ofCall result).called = true := by
    intro result
    cases result <;> rfl
  unfold attempt
  rw [hload]
  dsimp only
  rw [Session.answer_bind, Session.answer_map]
  exact hcalled _

/-- A source that loads is called in a protected call, and what this comes to is counted and
answered. -/
theorem runSource_of_loaded {code : Code} (hlive : s.engine.live = some live)
    (hload : load (textBytes label) source = .ok code) :
    ∃ answer vm,
      Machine.run (live.invoker.call ⟨live.vm.nextId, .script code⟩ [])
        { live.vm.among s.around.files with nextId := live.vm.nextId + 1 } = (.ok answer, vm) ∧
      s.answer (runSource live source label) = SourceRun.answer label answer ∧
      (s.after (runSource live source label)).engine =
        { s.engine with
          live := some { live with vm := vm.settled }
          stats := s.engine.stats.addSourceCall answer } := by
  obtain ⟨m, hcode, hmade⟩ := exists_callCode_eq (H := H) live code
  obtain ⟨answer, vm, hcall⟩ := live.invoker.run_call ⟨live.vm.nextId, .script code⟩ []
    { live.vm.among s.around.files with nextId := live.vm.nextId + 1 }
  have hsource : (runSource live source label : OperationOn H (Except ScriptError Unit)) =
      (do
        count fun c => { c with protectedCalls := c.protectedCalls + 1 }
        concludeSource label (← runProtected live m)) := by
    rw [runSource_of_ok hload, ← hcode]
  generalize hcounted : s.after (count fun c =>
    { c with protectedCalls := c.protectedCalls + 1 }) = counted
  have hopen : counted.engine.live = some live := by
    rw [← hcounted]
    exact hlive
  have hfiles : s.around.files = counted.around.files := by
    rw [← hcounted]
    rfl
  have hrun : Machine.run m (live.vm.among counted.around.files) = (.ok answer, vm) :=
    hfiles ▸ (hmade _).trans hcall
  have hengine : (counted.after (runProtected live m)).engine =
      { counted.engine with live := some { live with vm := vm.settled } } := by
    rw [engine_runProtected hopen, hrun]
  have hanswer : counted.answer (runProtected live m) = answer := answer_runProtected hrun
  refine ⟨answer, vm, hcall, ?_, ?_⟩
  · rw [hsource, Session.answer_bind, hcounted, Session.answer_bind, hanswer]
    cases answer <;> rfl
  · rw [hsource, Session.after_bind, hcounted, Session.after_bind, hanswer]
    generalize counted.after (runProtected live m) = called at hengine ⊢
    have hconclude : (called.after (concludeSource label answer)).engine =
        { called.engine with
          stats := { called.engine.stats with
            runtimeErrors := called.engine.stats.runtimeErrors + (!answer.isOk).toNat } } := by
      cases answer <;> rfl
    rw [hconclude, hengine, ← hcounted]
    rfl

end Operation

namespace World

variable {H : Type} [Host H]

/-- A source that does not load is counted and reported, and the answer is its label and the message
of the report. Everything else is as before: of the engine all but the count, the index, the tokens,
the notes that scripts asked for, and the origin and the style of the host. -/
structure OnlyReported (w : World H) (source : List Step) (label message : String) : Prop where
  answer : w.session.answer (Operation.execute source label) = .error (.compile label message)
  report : ∃ r : Report H, w.reports (.execute source label) = [r] ∧ r.TakesOneRoute ∧
    r.session = w.session.after (Operation.count Stats.addUnloaded) ∧
    (w.after (.execute source label)).session = r.made ∧
    r.record.event = compileEvent ∧ r.record.context = none ∧
    r.record.calledBy = "Immediate execution" ∧ r.record.description = message
  engine : (w.after (.execute source label)).session.engine =
    { w.session.engine with stats := w.session.engine.stats.addUnloaded }
  index : (w.after (.execute source label)).session.index = w.session.index
  tokens : (w.after (.execute source label)).tokens = w.tokens
  notes : (w.after (.execute source label)).session.around.notes = w.session.around.notes
  current : Operation.current (w.after (.execute source label)).session =
    Operation.current w.session

/-- A source that loads is called once: its function is new, the answer is what the protected call
in the machine of the engine comes to, and nothing but this call is counted. -/
structure CalledOnce (w : World H) (live : Live) (source : List Step) (label : String)
    (code : Code) : Prop where
  call : ∃ answer vm,
    Machine.run (live.invoker.call ⟨live.vm.nextId, .script code⟩ [])
      { live.vm.among w.session.around.files with nextId := live.vm.nextId + 1 } =
        (.ok answer, vm) ∧
    w.session.answer (Operation.execute source label) = SourceRun.answer label answer ∧
    (w.after (.execute source label)).session.engine =
      { w.session.engine with
        live := some { live with vm := vm.settled }
        stats := w.session.engine.stats.addSourceCall answer }
  calls : (w.episodes (.execute source label)).countP Episode.isCall = 1
  loaded : ∀ label' message,
    w.session.answer (Operation.execute source label) ≠ .error (.compile label' message)

variable {w : World H} {live : Live} {source : List Step} {label : String}

/-- The execution of a source by an open engine is one episode. -/
theorem episodes_execute (hlive : w.session.engine.live = some live) :
    w.episodes (.execute source label) = [w.session.sourceEpisode live source label] := by
  unfold episodes Session.executed
  dsimp only
  rw [hlive]

/-- A source that does not load is only reported. -/
theorem onlyReported_of_error [LawfulHost H] {e : LoadError}
    (hlive : w.session.engine.live = some live)
    (hload : load (textBytes label) source = .error e) :
    w.OnlyReported source label e.message := by
  obtain ⟨hanswer, hafter⟩ := Session.execute_of_open hlive source label
  have hsource : (Operation.runSource live source label :
      OperationOn H (Except ScriptError Unit)) =
      (do
        Operation.count Stats.addUnloaded
        Operation.report compileEvent none e.message
        pure (.error (.compile label e.message))) := by
    unfold Operation.runSource
    rw [hload]
    rfl
  -- The report is made in the session in which the source has been counted.
  let r : Report H :=
    ⟨w.session.after (Operation.count Stats.addUnloaded), compileEvent, none, e.message⟩
  have hmade : (w.after (.execute source label)).session = r.made := by
    refine hafter.trans ?_
    rw [hsource]
    rfl
  have hreports : w.reports (.execute source label) = [r] := by
    unfold reports
    rw [episodes_execute hlive]
    unfold Session.sourceEpisode
    rw [Operation.attempt_of_error hload]
    rfl
  refine ⟨?_, ⟨r, hreports, r.takesOneRoute, rfl, hmade, rfl, rfl, rfl, rfl⟩, ?_, ?_, rfl, ?_, ?_⟩
  · rw [hanswer, hsource]
    rfl
  · rw [hmade]
    rfl
  · rw [hmade]
    rfl
  · rw [hmade]
    exact r.reporter.notes_report compileEvent none e.message r.session.around
  · rw [hmade]
    exact Operation.keeps_current_report compileEvent none e.message r.session

/-- A source that loads is called once. -/
theorem calledOnce_of_ok {code : Code} (hlive : w.session.engine.live = some live)
    (hload : load (textBytes label) source = .ok code) : w.CalledOnce live source label code := by
  obtain ⟨hanswer, hafter⟩ := Session.execute_of_open hlive source label
  obtain ⟨answer, vm, hcall, hsource, hengine⟩ := Operation.runSource_of_loaded hlive hload
  refine ⟨⟨answer, vm, hcall, hanswer.trans hsource, ?_⟩, ?_, ?_⟩
  · rw [← hengine]
    exact congrArg Session.engine hafter
  · rw [episodes_execute hlive, List.countP_singleton]
    exact if_pos (Operation.called_attempt_of_ok hload)
  · intro label' message
    rw [hanswer, hsource]
    cases answer <;> nofun

/-- Sources that do not load have no effect but their report. A source does not load exactly if its
label has a NUL or some step within it does not compile. An open engine only reports such a source,
and calls any other one once. A closed engine does nothing, whatever the source. -/
theorem unloaded_sources_are_only_reported [LawfulHost H] (w : World H) (source : List Step)
    (label : String) :
    ((∃ e, load (textBytes label) source = .error e) ↔
      '\x00' ∈ label.toList ∨ ∃ f, Step.faulty f ∈ stepsWithin source) ∧
    (∀ live, w.session.engine.live = some live →
      (∀ e, load (textBytes label) source = .error e → w.OnlyReported source label e.message) ∧
      (∀ code, load (textBytes label) source = .ok code →
        w.CalledOnce live source label code)) ∧
    (w.session.engine.live = none →
      w.session.answer (Operation.execute source label) = .error .closed ∧
      w.after (.execute source label) = w ∧ w.reports (.execute source label) = []) := by
  refine ⟨exists_load_error_iff label source, ?_, ?_⟩
  · intro live hlive
    exact ⟨fun e hload => onlyReported_of_error hlive hload,
      fun code hload => calledOnce_of_ok hlive hload⟩
  · intro hclosed
    have hexecute : w.session.answer (Operation.execute source label) = .error .closed ∧
        w.session.after (Operation.execute source label) = w.session := by
      unfold Operation.execute
      rw [Session.answer_bind, Session.after_bind, Session.answer_get, Session.after_get, hclosed]
      exact ⟨rfl, rfl⟩
    refine ⟨hexecute.1, ?_, ?_⟩
    · show w.on (Operation.execute source label) = w
      unfold on
      rw [hexecute.2]
    · unfold reports episodes Session.executed
      dsimp only
      rw [hclosed]
      rfl

/-- A source whose second step would fail if it ran, and whose third has a function in which a step
does not compile. -/
def unloadedSource : List Step :=
  [.blank 1, .run (.call (.global (textBytes "error")) []),
    .setGlobal (textBytes "h") (.function [.when (.boolean true) [.faulty .equals]])]

/-- A source that fails with a text which looks like the message of a source that does not load. -/
def imitatingSource : List Step :=
  [.run (.call (.global (textBytes "error"))
    [.string (textBytes "compile error in Script file: unexpected symbol near '='")])]

/-- An engine with a function only reports the one source, and calls the other. -/
theorem unloaded_sources_are_only_reported_nested :
    let w := (watched false).run watchedActions
    (∃ message, w.OnlyReported unloadedSource "Script file" message) ∧
    (∃ live code, w.CalledOnce live imitatingSource "Script file" code) ∧
    w.session.engine.stats = ⟨2, 0, 0, 0, 0⟩ ∧
    (w.after (.execute unloadedSource "Script file")).session.engine.stats = ⟨2, 0, 1, 0, 0⟩ ∧
    (w.after (.execute imitatingSource "Script file")).session.engine.stats = ⟨3, 1, 0, 0, 0⟩ := by
  have hopen : ((watched false).run watchedActions).session.engine.live.isSome = true := by
    decide +kernel
  have hstats : ((watched false).run watchedActions).session.engine.stats = ⟨2, 0, 0, 0, 0⟩ ∧
      (((watched false).run watchedActions).after
        (.execute unloadedSource "Script file")).session.engine.stats = ⟨2, 0, 1, 0, 0⟩ ∧
      (((watched false).run watchedActions).after
        (.execute imitatingSource "Script file")).session.engine.stats = ⟨3, 1, 0, 0, 0⟩ := by
    decide +kernel
  dsimp only
  generalize (watched false).run watchedActions = w at *
  obtain ⟨live, hlive⟩ := Option.isSome_iff_exists.mp hopen
  refine ⟨?_, ?_, hstats⟩
  · obtain ⟨hload, hrun, -⟩ := unloaded_sources_are_only_reported w unloadedSource "Script file"
    have hfaulty : Step.faulty .equals ∈ stepsWithin unloadedSource := by
      simp [unloadedSource, stepsWithin, Step.inner, Expr.steps, exprsSteps]
    obtain ⟨e, he⟩ := hload.mpr (.inr ⟨.equals, hfaulty⟩)
    exact ⟨e.message, (hrun live hlive).1 e he⟩
  · obtain ⟨-, hrun, -⟩ := unloaded_sources_are_only_reported w imitatingSource "Script file"
    exact ⟨live, _, (hrun live hlive).2 _ rfl⟩

/-- A closed engine does not tell of a source that it does not load. -/
theorem closed_engine_tells_of_no_source :
    (load (textBytes "Script file") [.faulty .paren]).isOk = false ∧
    bare.session.answer (Operation.execute [.faulty .paren] "Script file") = .error .closed ∧
    (bare.after (.execute [.faulty .paren] "Script file")).session.engine.stats = .zero ∧
    (bare.reports (.execute [.faulty .paren] "Script file")).length = 0 := by
  decide +kernel

end World

end EventScripts
