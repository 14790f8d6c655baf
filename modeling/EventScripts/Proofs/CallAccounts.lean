import Mathlib.Algebra.BigOperators.Group.List.Basic
import Mathlib.Algebra.GroupWithZero.Nat
import Mathlib.Data.List.ReduceOption
import EventScripts.Proofs.Episodes

/-!
# Accounts of a run

What an engine has counted is what the episodes of its run add up to. From that the counts balance.
Every dispatch made while the engine is open is skipped, finds no function or makes a protected
call. Every protected call is one that returned to its site, one of a source that finished, or a
run-time error. Every source that is started does not load or makes a protected call.

A host that stays attached to an engine which traces dispatches is told of each of them but the
skipped ones, once and in order.
-/

set_option autoImplicit false

namespace EventScripts

open Script

/-! ## What episodes add to the counts -/

/-- Whether a source made a protected call. -/
def SourceRun.called : SourceRun → Bool
  | .notLoaded _ => false
  | _ => true

/-- Whether a dispatch made a protected call. -/
def Operation.SiteRun.called : Operation.SiteRun → Bool
  | .notFound => false
  | _ => true

namespace Episode

variable {H : Type}

/-- A dispatch that a broken token cut short. -/
def isSkipped : Episode H → Bool
  | .skipped => true
  | _ => false

/-- A dispatch whose name was no function. -/
def isUnresolved : Episode H → Bool
  | .site _ .notFound _ => true
  | _ => false

/-- A dispatch that made a protected call. -/
def isSiteCall : Episode H → Bool
  | .site _ run _ => run.called
  | _ => false

/-- A dispatch whose call returned. -/
def isReturned : Episode H → Bool
  | .site _ (.returned _) _ => true
  | _ => false

/-- A dispatch. -/
def isDispatch : Episode H → Bool
  | .source _ _ => false
  | _ => true

/-- A source that was started. -/
def isSource : Episode H → Bool
  | .source _ _ => true
  | _ => false

/-- A source that did not load. -/
def isUnloaded : Episode H → Bool
  | .source (.notLoaded _) _ => true
  | _ => false

/-- A source that made a protected call. -/
def isSourceCall : Episode H → Bool
  | .source run _ => run.called
  | _ => false

/-- A source that ran without an error. -/
def isFinished : Episode H → Bool
  | .source .finished _ => true
  | _ => false

/-- A protected call that failed. -/
def isFailedCall : Episode H → Bool
  | .site _ (.failed _) _ => true
  | .source (.failed _) _ => true
  | _ => false

/-- A protected call. -/
def isCall (e : Episode H) : Bool := e.isSiteCall || e.isSourceCall

variable (es : List (Episode H))

/-- Every dispatch is skipped, finds no function or makes a protected call. -/
theorem countP_isDispatch :
    es.countP isDispatch =
      es.countP isSkipped + es.countP isUnresolved + es.countP isSiteCall := by
  induction es with
  | nil => rfl
  | cons e rest ih =>
    simp only [List.countP_cons, ih]
    rcases e with _ | ⟨r, _ | _ | _, u⟩ | ⟨run, u⟩ <;>
      simp [isDispatch, isSkipped, isUnresolved, isSiteCall, Operation.SiteRun.called] <;> omega

/-- Every protected call returns to its site, finishes a source or fails. -/
theorem countP_isCall :
    es.countP isCall = es.countP isReturned + es.countP isFinished + es.countP isFailedCall := by
  induction es with
  | nil => rfl
  | cons e rest ih =>
    simp only [List.countP_cons, ih]
    rcases e with _ | ⟨r, _ | _ | _, u⟩ | ⟨_ | _ | _, u⟩ <;>
      simp [isCall, isSiteCall, isSourceCall, isReturned, isFinished, isFailedCall,
        Operation.SiteRun.called, SourceRun.called] <;> omega

/-- Every protected call is that of a dispatch or that of a source. -/
theorem countP_isCall_eq_add :
    es.countP isCall = es.countP isSiteCall + es.countP isSourceCall := by
  induction es with
  | nil => rfl
  | cons e rest ih =>
    simp only [List.countP_cons, ih]
    rcases e with _ | ⟨r, _ | _ | _, u⟩ | ⟨_ | _ | _, u⟩ <;>
      simp [isCall, isSiteCall, isSourceCall, Operation.SiteRun.called, SourceRun.called] <;> omega

/-- Every source does not load or makes a protected call. -/
theorem countP_isSource :
    es.countP isSource = es.countP isUnloaded + es.countP isSourceCall := by
  induction es with
  | nil => rfl
  | cons e rest ih =>
    simp only [List.countP_cons, ih]
    rcases e with _ | ⟨r, run, u⟩ | ⟨_ | _ | _, u⟩ <;>
      simp [isSource, isUnloaded, isSourceCall, SourceRun.called] <;> omega

end Episode

/-- The counts after some more protected calls. -/
def Stats.addCalls (c : Stats) (n : Nat) : Stats :=
  { c with protectedCalls := c.protectedCalls + n }

/-- The counts after an episode. -/
def Stats.record {H : Type} (c : Stats) (e : Episode H) : Stats where
  protectedCalls := c.protectedCalls + e.isCall.toNat
  runtimeErrors := c.runtimeErrors + e.isFailedCall.toNat
  compileErrors := c.compileErrors + e.isUnloaded.toNat
  resolutionFailures := c.resolutionFailures + e.isUnresolved.toNat
  skipped := c.skipped + e.isSkipped.toNat

/-- Episodes add up in the counts. -/
theorem Stats.foldl_record {H : Type} (es : List (Episode H)) (c : Stats) :
    es.foldl Stats.record c =
      ⟨c.protectedCalls + es.countP Episode.isCall,
        c.runtimeErrors + es.countP Episode.isFailedCall,
        c.compileErrors + es.countP Episode.isUnloaded,
        c.resolutionFailures + es.countP Episode.isUnresolved,
        c.skipped + es.countP Episode.isSkipped⟩ := by
  have hcons : ∀ (p : Episode H → Bool) (e : Episode H) (rest : List (Episode H)),
      (e :: rest).countP p = (p e).toNat + rest.countP p := by
    intro p e rest
    rw [List.countP_cons, Nat.add_comm]
    cases p e <;> rfl
  induction es generalizing c with
  | nil => rfl
  | cons e rest ih =>
    rw [List.foldl_cons, ih]
    simp only [hcons, Stats.record, Nat.add_assoc]

namespace Operation

variable {H : Type} [Host H]

/-- The counts of a session. -/
abbrev statsOf (s : Session H) : Stats := s.engine.stats

/-- Nothing is counted in the background. -/
theorem background_statsOf : Background (fun s t : Session H => statsOf t = statsOf s) :=
  background_of_view (fun _ _ _ _ => rfl) (fun _ _ _ _ _ => rfl) (fun _ _ => rfl)
    (fun _ _ => rfl) (fun _ _ => rfl) fun _ => rfl

/-- A source counts its protected call before it is concluded, if it makes one. -/
theorem stats_after_attempt (s : Session H) (live : Live) (source : List Step) (label : String) :
    statsOf (s.after (attempt live source label)) =
      (statsOf s).addCalls (s.answer (attempt live source label)).called.toNat := by
  unfold attempt
  cases load (textBytes label) source with
  | error e => rfl
  | ok code =>
    dsimp only
    rw [Session.after_bind, Session.answer_bind, Session.after_map, Session.answer_map]
    generalize hcounted : s.after (count fun c =>
      { c with protectedCalls := c.protectedCalls + 1 }) = t
    have hcalled : statsOf (t.after (callCode live code)) = statsOf t :=
      background_statsOf.inner.runProtected live _ t
    have hstats : statsOf t = (statsOf s).addCalls 1 := by
      rw [← hcounted]
      rfl
    rw [hcalled, hstats]
    cases t.answer (callCode live code) <;> rfl

/-- A dispatch counts its protected call before it is concluded, if it makes one. -/
theorem stats_after_scopedRun (s : Session H) (live : Live) (r : Request)
    (arguments : Machine (List Value)) :
    statsOf (s.after (scopedRun live r arguments)) =
      (statsOf s).addCalls (s.answer (scopedRun live r arguments)).called.toNat := by
  have htrace : Keeps statsOf (traceDispatch r : OperationOn H Unit) :=
    keeps_traceDispatch (fun _ _ => rfl) r
  have hrun : ∀ t : Session H, statsOf (t.after (runSite live r arguments)) =
      (statsOf t).addCalls (t.answer (runSite live r arguments)).called.toNat := by
    intro t
    have hfound := background_statsOf.inner.findFunction live r.procedure t
    unfold runSite
    rw [Session.after_bind, Session.answer_bind]
    generalize t.answer (findFunction live r.procedure) = found
    generalize t.after (findFunction live r.procedure) = u at hfound
    obtain ⟨_ | f, live⟩ := found
    · exact hfound
    · dsimp only
      rw [Session.after_bind, Session.after_bind, Session.answer_bind, Session.answer_bind,
        Session.after_map, Session.answer_map]
      generalize hcounted : (u.after (onAround (·.setOrigin r.source))).after (count fun c =>
        { c with protectedCalls := c.protectedCalls + 1 }) = v
      have hcalled : statsOf (v.after (callFunction live f arguments)) = statsOf v :=
        background_statsOf.inner.runProtected live _ v
      have hstats : statsOf v = (statsOf t).addCalls 1 := by
        rw [← hcounted, ← hfound]
        rfl
      rw [hcalled, hstats]
      cases v.answer (callFunction live f arguments) <;> rfl
  have hentered : statsOf (s.after (traceDispatch r)).entered = statsOf s := htrace s
  have hscoped := hrun (s.after (traceDispatch r)).entered
  rw [hentered] at hscoped
  unfold scopedRun
  rw [Session.after_bind, Session.answer_bind, Session.after_inScope, Session.answer_inScope]
  exact hscoped

/-- The counts after episodes are those before, with the episodes recorded. -/
theorem chronicle_stats : Chronicle (fun (s : Session H) es t =>
    statsOf t = es.foldl Stats.record (statsOf s)) where
  trans := by
    intro s t u es es' hst htu
    rw [List.foldl_append, ← hst]
    exact htu
  background h := h background_statsOf
  skipped _ := rfl
  source s live source label := by
    have hconclude : ∀ (run : SourceRun) (c : Stats) (t : Session H),
        statsOf t = c.addCalls run.called.toNat →
          statsOf (t.after (concludeAttempt label run)) = c.record (.source run t) := by
      intro run c t h
      cases run with
      | notLoaded message =>
        exact congrArg (fun c : Stats => { c with compileErrors := c.compileErrors + 1 }) h
      | failed message =>
        exact congrArg (fun c : Stats => { c with runtimeErrors := c.runtimeErrors + 1 }) h
      | finished => exact h
    rw [runSource_eq, Session.after_bind]
    exact hconclude _ _ _ (stats_after_attempt s live source label)
  site s live token r arguments counter := by
    have hconclude : ∀ (run : SiteRun) (c : Stats) (t : Session H),
        statsOf t = c.addCalls run.called.toNat →
          statsOf (t.after (concludeSite token r counter run)) = c.record (.site r run t) := by
      intro run c t h
      cases run with
      | notFound =>
        exact congrArg
          (fun c : Stats => { c with resolutionFailures := c.resolutionFailures + 1 }) h
      | failed message =>
        exact congrArg (fun c : Stats => { c with runtimeErrors := c.runtimeErrors + 1 }) h
      | returned results => exact h
    exact hconclude _ _ _ (stats_after_scopedRun s live r arguments)

end Operation

/-! ## Traces -/

/-- A view of the traces that a host was told of, in order: nothing but a trace adds to them. -/
structure KeepsTraces {H : Type} [Host H] (traces : H → List String) : Prop
    extends Reporter.Unseen traces where
  trace : ∀ (text : String) (h : H), traces (Host.trace text h) = traces h ++ [text]
  setOrigin : ∀ (o : Origin) (h : H), traces (Host.setOrigin o h) = traces h
  setStyle : ∀ (t : NoteStyle) (h : H), traces (Host.setStyle t h) = traces h
  addTime : ∀ h : H, traces (Host.addTime h) = traces h
  absorb : ∀ (e : Effect) (h : H), traces (Host.absorb e h) = traces h

/-- A document is told of traces one by one. -/
theorem Document.keepsTraces : KeepsTraces Document.traces where
  note _ _ _ _ := rfl
  tell _ _ _ _ := rfl
  showErrorLines _ _ := rfl
  routeErrors _ _ := rfl
  trace _ _ := rfl
  setOrigin _ _ := rfl
  setStyle _ _ := rfl
  addTime _ := rfl
  absorb e h := by cases e <;> rfl

/-- The trace of a dispatch. -/
def Request.traceLine (r : Request) : String :=
  "Executing " ++ r.kind ++ " script \"" ++ r.procedure ++ "\""

/-- The trace that an episode leaves. -/
def Episode.traceLine? {H : Type} : Episode H → Option String
  | .site r _ _ => some r.traceLine
  | _ => none

namespace Operation

variable {H : Type} [Host H] {traces : H → List String}

/-- Whether an engine traces dispatches, and the traces that its host was told of. -/
def tracing (traces : H → List String) (s : Session H) : Bool × Option (List String) :=
  (s.engine.settings.traceDispatch, s.around.host.map traces)

omit [Host H] in
/-- What a host does without touching its traces leaves no trace. -/
theorem keeps_tracing_onHost {f : H → H} (hf : ∀ h, traces (f h) = traces h) :
    Keeps (tracing traces) (onAround (·.onHost f) : OperationOn H Unit) := by
  refine keeps_onAround fun s => ?_
  exact congrArg (Prod.mk s.engine.settings.traceDispatch) (s.around.map_host_onHost hf)

/-- The view after some more traces, if the engine traces dispatches. -/
def addTraces (lines : List String) (p : Bool × Option (List String)) :
    Bool × Option (List String) :=
  (p.1, p.2.map (· ++ if p.1 then lines else []))

/-- Adding traces twice is adding all of them. -/
theorem addTraces_append (first second : List String) (p : Bool × Option (List String)) :
    addTraces second (addTraces first p) = addTraces (first ++ second) p := by
  obtain ⟨on, lines⟩ := p
  cases on <;> cases lines <;> simp [addTraces]

/-- Adding no traces changes nothing. -/
theorem addTraces_nil (p : Bool × Option (List String)) : addTraces [] p = p := by
  obtain ⟨on, lines⟩ := p
  cases lines <;> simp [addTraces]

variable (htraces : KeepsTraces traces)

include htraces

/-- There are no traces of the background. -/
theorem background_tracing :
    Background (fun s t : Session H => tracing traces t = tracing traces s) :=
  background_of_view (fun _ _ _ _ => rfl) (fun _ _ _ _ _ => rfl)
    (fun e => keeps_tracing_onHost (htraces.absorb e))
    (fun t => keeps_tracing_onHost (htraces.setStyle t))
    (fun o => keeps_tracing_onHost (htraces.setOrigin o)) (keeps_tracing_onHost htraces.addTime)

/-- What is done on the side leaves no trace. -/
theorem unnoted_tracing : Unnoted (tracing traces) where
  count _ := keeps_onEngine fun _ => rfl
  log _ := keeps_onAround fun _ => rfl
  report event context description := by
    intro s
    exact congrArg (Prod.mk _)
      (htraces.toUnseen.report s.engine.reporter event context description s.around)
  time := (background_tracing htraces).time

/-- The trace of a dispatch is the line that names its kind and its procedure. -/
theorem tracing_after_traceDispatch (r : Request) (s : Session H) :
    tracing traces (s.after (traceDispatch r)) = addTraces [r.traceLine] (tracing traces s) := by
  unfold traceDispatch tracing addTraces
  rw [Session.after_bind, Session.answer_get, Session.after_get]
  cases htrace : s.engine.settings.traceDispatch with
  | false => cases hhost : s.around.host <;> simp [htrace, hhost]
  | true =>
    cases hhost : s.around.host with
    | none => simp [htrace, hhost, Surroundings.onHost]
    | some h => simp [htrace, hhost, Surroundings.onHost, htraces.trace, Request.traceLine]

/-- The host is told of the traces of the episodes, and of no others. -/
theorem chronicle_traces : Chronicle (fun (s : Session H) es t =>
    tracing traces t = addTraces (es.filterMap Episode.traceLine?) (tracing traces s)) where
  trans := by
    intro s t u es es' hst htu
    rw [htu, hst, addTraces_append, List.filterMap_append]
  background h := by
    rw [h (background_tracing htraces), List.filterMap_nil, addTraces_nil]
  skipped s := (addTraces_nil _).symm
  source s live source label := by
    have hquiet := (unnoted_tracing htraces).runSource (background_tracing htraces).inner live
      source label s
    exact hquiet.trans (addTraces_nil _).symm
  site s live token r arguments counter := by
    have hconclude := (unnoted_tracing htraces).concludeSite token r counter
      (s.answer (scopedRun live r arguments)) (s.after (scopedRun live r arguments))
    have hrun := (unnoted_tracing htraces).inScope_runSite (background_tracing htraces).inner live
      r arguments (s.after (traceDispatch r))
    exact (hconclude.trans hrun).trans (tracing_after_traceDispatch htraces r s)

end Operation

/-! ## What an action adds to the accounts -/

/-- Whether nothing was called. -/
def Dispatched.isSkipped {α : Type} (d : Dispatched α) : Bool :=
  match d.answer with
  | .ok outcome => outcome.isSkipped
  | .error _ => false

namespace World

variable {H : Type} [Host H]

/-- How many dispatches an action makes in an open engine: one or none. -/
def dispatches (w : World H) (a : Action H) : Nat := (w.isOpen && a.call?.isSome).toNat

/-- How much the invocation counter of a site grows. -/
def growth (w : World H) (a : Action H) : Nat :=
  match a.call?, w.verdict a with
  | some c, some d => d.count - c.counter
  | _, _ => 0

/-- How many sources an action starts: the function that checks return codes and the sandbox script
in every new machine, and what an open engine is told to execute. -/
def sources (w : World H) (a : Action H) : Nat :=
  if w.makesMachine a then 1 + w.session.engine.settings.sandbox.isSome.toNat
  else match a with
    | .execute _ _ => w.isOpen.toNat
    | _ => 0

/-- The trace of a dispatch that finds the engine open and is not skipped. -/
def traceLine? (w : World H) (a : Action H) : Option String :=
  match a.call?, w.verdict a with
  | some c, some d => if w.isOpen && !d.isSkipped then some c.request.traceLine else none
  | _, _ => none

/-- The accounts of a dispatch are those of its episode. -/
theorem account_of_call {a : Action H} {c : SiteCall} {d : Dispatched Unit} (w : World H)
    (hc : a.call? = some c) (hd : w.verdict a = some d) :
    w.dispatches a = (w.episodes a).countP Episode.isDispatch ∧
    w.growth a = (w.episodes a).countP Episode.isReturned ∧
    (w.traceLine? a).toList = (w.episodes a).filterMap Episode.traceLine? ∧
    (d.answer = .ok (.invoked ()) → d.count = c.counter + 1) ∧
    (d.answer ≠ .ok (.invoked ()) → d.count = c.counter) := by
  unfold dispatches growth traceLine?
  rw [hc, hd]
  rcases w.call_cases hc with ⟨hopen, hes, hverdict⟩ | ⟨hopen, hes, hverdict⟩ |
    ⟨live, run, u, hlive, -, hes, hverdict⟩
  · rw [hd] at hverdict
    cases hverdict
    rw [hopen, hes]
    exact ⟨rfl, Nat.sub_self _, rfl, nofun, fun _ => rfl⟩
  · rw [hd] at hverdict
    cases hverdict
    rw [hopen, hes]
    exact ⟨rfl, Nat.sub_self _, rfl, nofun, fun _ => rfl⟩
  · have hopen : w.isOpen = true := by
      unfold isOpen Engine.isOpen
      rw [hlive, Option.isSome_some]
    rw [hd] at hverdict
    cases hverdict
    rw [hopen, hes]
    cases run with
    | notFound => exact ⟨rfl, Nat.sub_self _, rfl, nofun, fun _ => rfl⟩
    | failed message => exact ⟨rfl, Nat.sub_self _, rfl, nofun, fun _ => rfl⟩
    | returned results =>
      exact ⟨rfl, Nat.add_sub_cancel_left _ 1, rfl, fun _ => rfl, fun h => absurd rfl h⟩

/-- An action that is no dispatch has no episode of a dispatch. -/
theorem isSource_of_no_call {a : Action H} {e : Episode H} (w : World H) (ha : a.call? = none)
    (he : e ∈ w.episodes a) : e.isSource = true := by
  have hexecuted : ∀ (s : Session H) (source : List Step) (label : String),
      ∀ e ∈ s.executed source label, e.isSource = true := by
    intro s source label e he
    unfold Session.executed at he
    cases hlive : s.engine.live with
    | none =>
      rw [hlive] at he
      cases he
    | some live =>
      rw [hlive, List.mem_singleton] at he
      rw [he]
      rfl
  have hsandboxed : ∀ s : Session H, ∀ e ∈ s.sandboxed, e.isSource = true := by
    intro s e he
    unfold Session.sandboxed at he
    split at he
    · rw [List.mem_singleton] at he
      rw [he]
      rfl
    · cases he
  have hopened : ∀ s : Session H, ∀ e ∈ s.opened, e.isSource = true := by
    intro s e he
    unfold Session.opened at he
    split at he
    · cases he
    · split at he
      · cases he
      · rcases List.mem_append.mp he with he | he
        · exact hexecuted _ _ _ e he
        · exact hsandboxed _ e he
  cases a with
  | openEngine => exact hopened _ e he
  | reset => exact hopened _ e he
  | execute source label => exact hexecuted _ _ _ e he
  | dispatch site r counter => cases ha
  | dispatchText site r text counter => cases ha
  | _ => cases he

end World

namespace Session

variable {H : Type} [Host H]

open Operation

/-- The execution of a source by an open engine starts one source. -/
theorem countP_isSource_executed (s : Session H) (source : List Step) (label : String) :
    (s.executed source label).countP Episode.isSource = s.engine.isOpen.toNat := by
  unfold executed Engine.isOpen
  cases s.engine.live <;> rfl

/-- An open engine starts the sandbox script, if there is one. -/
theorem countP_isSource_sandboxed {s : Session H} (h : s.engine.isOpen = true) :
    s.sandboxed.countP Episode.isSource = s.engine.settings.sandbox.isSome.toNat := by
  unfold sandboxed
  cases s.engine.settings.sandbox with
  | none => rfl
  | some source =>
    cases hlive : s.engine.live with
    | none =>
      rw [Engine.isOpen, hlive] at h
      cases h
    | some live => rfl

/-- An opening that makes a machine starts the function that checks return codes, and the sandbox
script. -/
theorem countP_isSource_opened (s : Session H) :
    s.opened.countP Episode.isSource =
      if !s.engine.isOpen && (s.answer openEngine).isOk
      then 1 + s.engine.settings.sandbox.isSome.toNat else 0 := by
  unfold opened
  cases hopen : s.engine.isOpen with
  | true => rfl
  | false =>
    cases hprepare : s.answer prepare with
    | error e =>
      rw [(openEngine_of_error hopen hprepare).2]
      rfl
    | ok live =>
      have hprepared : (s.after prepare).engine.settings = s.engine.settings :=
        congrArg Engine.settings (keeps_engine_prepare s)
      have hsettings : ((s.after prepare).mounted live).engine.settings = s.engine.settings :=
        hprepared
      have hmounted : ((s.after prepare).mounted live).engine.isOpen = true := rfl
      rw [(openEngine_of_ok hopen hprepare).2, if_neg Bool.false_ne_true]
      dsimp only
      generalize (s.after prepare).mounted live = t at *
      have hstanding : (t.after (execute Check.source Check.label)).engine.standing =
          t.engine.standing :=
        congrArg Footing.standing (keeps_footing_execute Check.source Check.label t)
      have hstill : (t.after (execute Check.source Check.label)).engine.isOpen = true := by
        rw [Engine.isOpen_eq_standing, hstanding, ← Engine.isOpen_eq_standing, hmounted]
      have hsandbox : (t.after (execute Check.source Check.label)).engine.settings =
          s.engine.settings :=
        (congrArg Standing.settings hstanding).trans hsettings
      rw [List.countP_append, countP_isSource_executed, countP_isSource_sandboxed hstill,
        hmounted, hsandbox]
      rfl

/-- A dispatch starts no source. -/
theorem countP_isSource_called (s : Session H) (token : Token) (r : Request)
    (arguments : Machine (List Value)) :
    (s.called token r arguments).countP Episode.isSource = 0 := by
  unfold called
  cases s.engine.live with
  | none => rfl
  | some live =>
    dsimp only
    split <;> rfl

end Session

namespace World

variable {H : Type} [Host H]

/-- The sources that an action starts are those of its episodes. -/
theorem sources_eq (w : World H) (a : Action H) :
    w.sources a = (w.episodes a).countP Episode.isSource := by
  cases a with
  | openEngine => exact (w.session.countP_isSource_opened).symm
  | reset =>
    have hclosed : (w.session.after Operation.close).engine =
        { w.session.engine with live := none } := Operation.engine_close w.session
    have hopened := (w.session.after Operation.close).countP_isSource_opened
    rw [hclosed] at hopened
    exact hopened.symm
  | execute source label => exact (w.session.countP_isSource_executed source label).symm
  | dispatch site r counter =>
    exact (w.session.countP_isSource_called (w.tokens site) r r.arguments).symm
  | dispatchText site r text counter =>
    exact (w.session.countP_isSource_called (w.tokens site) r (pure (textArguments text))).symm
  | _ => rfl

/-- The accounts of an action are those of its episodes. -/
theorem account (w : World H) (a : Action H) :
    w.dispatches a = (w.episodes a).countP Episode.isDispatch ∧
    w.growth a = (w.episodes a).countP Episode.isReturned ∧
    (w.traceLine? a).toList = (w.episodes a).filterMap Episode.traceLine? := by
  cases hc : a.call? with
  | some c =>
    obtain ⟨hdispatches, hgrowth, htrace, -⟩ := account_of_call w hc (verdict_of_call w hc)
    exact ⟨hdispatches, hgrowth, htrace⟩
  | none =>
    have hsource : ∀ e ∈ w.episodes a, ∃ run u, e = .source run u := by
      intro e he
      have hkind := isSource_of_no_call w hc he
      cases e with
      | source run u => exact ⟨run, u, rfl⟩
      | _ => cases hkind
    unfold dispatches growth traceLine?
    rw [hc, Option.isSome_none, Bool.and_false]
    refine ⟨?_, ?_, ?_⟩
    · refine (List.countP_eq_zero.mpr fun e he => ?_).symm
      obtain ⟨run, u, rfl⟩ := hsource e he
      exact Bool.false_ne_true
    · refine (List.countP_eq_zero.mpr fun e he => ?_).symm
      obtain ⟨run, u, rfl⟩ := hsource e he
      exact Bool.false_ne_true
    · refine (List.filterMap_eq_nil_iff.mpr fun e he => ?_).symm
      obtain ⟨run, u, rfl⟩ := hsource e he
      rfl

/-- Numbers that count episodes of actions add up to the number of those of a run. -/
theorem sum_along {f : World H → Action H → Nat} {p : Episode H → Bool}
    (h : ∀ (w : World H) (a : Action H), f w a = (w.episodes a).countP p) (w : World H)
    (actions : List (Action H)) :
    (w.along f actions).sum = (w.episodesIn actions).countP p := by
  unfold episodesIn
  induction actions generalizing w with
  | nil => rfl
  | cons a rest ih =>
    rw [along, along, List.sum_cons, List.flatten_cons, List.countP_append, ih, h]

/-- The traces of actions are those of the episodes of a run. -/
theorem reduceOption_along_traceLine (w : World H) (actions : List (Action H)) :
    (w.along traceLine? actions).reduceOption =
      (w.episodesIn actions).filterMap Episode.traceLine? := by
  unfold episodesIn
  induction actions generalizing w with
  | nil => rfl
  | cons a rest ih =>
    rw [along, along, List.flatten_cons, List.filterMap_append, ← (account w a).2.2, ← ih]
    cases w.traceLine? a <;> rfl

/-- The counts after a run are those before, with its episodes recorded. -/
theorem stats_run (w : World H) (actions : List (Action H)) :
    (w.run actions).session.engine.stats =
      (w.episodesIn actions).foldl Stats.record w.session.engine.stats := by
  refine Operation.chronicle_stats.run fun a _ ha v => ?_
  cases a with
  | attach d => rfl
  | detach => rfl
  | _ => cases ha

/-- A host that stays attached is told of the traces of all episodes, if the engine traces
dispatches. -/
theorem traces_run {traces : H → List String} (htraces : KeepsTraces traces) {w : World H}
    {actions : List (Action H)} {h : H} (hhost : w.session.around.host = some h)
    (htrace : w.session.engine.settings.traceDispatch = true)
    (hstays : ∀ a ∈ actions, a.movesHost = false) :
    ∃ h', (w.run actions).session.around.host = some h' ∧
      traces h' = traces h ++ (w.along traceLine? actions).reduceOption := by
  have hrun : Operation.tracing traces (w.run actions).session =
      Operation.addTraces ((w.episodesIn actions).filterMap Episode.traceLine?)
        (Operation.tracing traces w.session) := by
    refine (Operation.chronicle_traces htraces).run fun a ha hmoves => ?_
    rw [hstays a ha] at hmoves
    cases hmoves
  rw [← reduceOption_along_traceLine] at hrun
  have htold := congrArg Prod.snd hrun
  unfold Operation.addTraces Operation.tracing at htold
  rw [hhost, htrace] at htold
  cases hafter : (w.run actions).session.around.host with
  | none =>
    rw [hafter] at htold
    cases htold
  | some h' =>
    rw [hafter] at htold
    exact ⟨h', rfl, Option.some.inj htold⟩

/-- The calls of a run of a new engine are conserved. -/
theorem calls_are_conserved (start : World H)
    (hnew : ∃ settings selection presenter date,
      start.session.engine = .new settings selection presenter date)
    (actions : List (Action H)) :
    let episodes := start.episodesIn actions
    let stats := (start.run actions).session.engine.stats
    (start.along dispatches actions).sum =
      stats.skipped + stats.resolutionFailures + episodes.countP Episode.isSiteCall ∧
    stats.protectedCalls =
      (start.along growth actions).sum + episodes.countP Episode.isFinished +
        stats.runtimeErrors ∧
    (start.along sources actions).sum =
      stats.compileErrors + episodes.countP Episode.isSourceCall ∧
    stats.protectedCalls =
      episodes.countP Episode.isSiteCall + episodes.countP Episode.isSourceCall ∧
    (∀ (w : World H) (a : Action H) (c : SiteCall) (d : Dispatched Unit),
      a.call? = some c → w.verdict a = some d →
      (d.answer = .ok (.invoked ()) → d.count = c.counter + 1) ∧
      (d.answer ≠ .ok (.invoked ()) → d.count = c.counter)) ∧
    (∀ traces : H → List String, KeepsTraces traces →
      start.session.engine.settings.traceDispatch = true →
      ∀ (first last : List (Action H)) (h : H), actions = first ++ last →
      (start.run first).session.around.host = some h →
      (∀ a ∈ last, a.movesHost = false) →
      ∃ h', (start.run actions).session.around.host = some h' ∧
        traces h' = traces h ++ ((start.run first).along traceLine? last).reduceOption) := by
  intro episodes stats
  obtain ⟨settings, selection, presenter, date, hengine⟩ := hnew
  have hstats : stats = ⟨episodes.countP Episode.isCall, episodes.countP Episode.isFailedCall,
      episodes.countP Episode.isUnloaded, episodes.countP Episode.isUnresolved,
      episodes.countP Episode.isSkipped⟩ := by
    have hrun := stats_run start actions
    rw [hengine, Stats.foldl_record] at hrun
    simpa [Engine.new, Stats.zero] using hrun
  refine ⟨?_, ?_, ?_, ?_, ?_, ?_⟩
  · rw [sum_along (fun w a => (account w a).1), Episode.countP_isDispatch, hstats]
  · rw [sum_along (fun w a => (account w a).2.1), hstats]
    exact Episode.countP_isCall episodes
  · rw [sum_along sources_eq, Episode.countP_isSource, hstats]
  · rw [hstats]
    exact Episode.countP_isCall_eq_add episodes
  · intro w a c d hc hd
    exact (account_of_call w hc hd).2.2.2
  · intro traces htraces htrace first last h hsplit hhost hstays
    obtain ⟨generation, invoker, hstanding⟩ := standing_run start first
    have hsettings : (start.run first).session.engine.settings = start.session.engine.settings :=
      congrArg Standing.settings hstanding
    rw [← hsettings] at htrace
    rw [hsplit, run_append]
    exact traces_run htraces hhost htrace hstays

/-- A new engine that traces dispatches to a document, and whose machines get none of the
libraries. -/
def traced : World :=
  ⟨.new (.new ⟨none, "", "", true, true⟩ ⟨Library.all.map (·, .nothing), []⟩ .log "")
    (some (.new "world")), fun _ => .fresh⟩

/-- A function is defined and called; the dispatches of one that is missing fail and are skipped. -/
def tracedActions : List (Action Document) :=
  [.openEngine, .execute [.setGlobal (textBytes "f") (.function [])] "Script file",
    .dispatch 1 (.new "f" "trigger" "") 4, .dispatch 0 (.new "g" "trigger" "") 0,
    .dispatch 0 (.new "g" "trigger" "") 0]

/-- Of three dispatches two leave a trace, and one makes a protected call. -/
theorem calls_are_conserved_traced :
    let episodes := traced.episodesIn tracedActions
    (traced.run tracedActions).session.engine.stats = ⟨3, 0, 0, 1, 1⟩ ∧
    (traced.along dispatches tracedActions).sum = 1 + 1 + episodes.countP Episode.isSiteCall ∧
    3 = (traced.along growth tracedActions).sum + episodes.countP Episode.isFinished + 0 ∧
    (traced.along sources tracedActions).sum = 0 + episodes.countP Episode.isSourceCall ∧
    ∃ h, (traced.run tracedActions).session.around.host = some h ∧
      h.traces = ["Executing trigger script \"f\"", "Executing trigger script \"g\""] := by
  have hstats : (traced.run tracedActions).session.engine.stats = ⟨3, 0, 0, 1, 1⟩ := by
    decide +kernel
  have htold : (traced.along traceLine? tracedActions).reduceOption =
      ["Executing trigger script \"f\"", "Executing trigger script \"g\""] := by
    decide +kernel
  have hstays : ∀ a ∈ tracedActions, a.movesHost = false := by
    decide
  obtain ⟨hdispatches, hcalls, hsources, -, -, htraces⟩ :=
    calls_are_conserved traced ⟨_, _, _, _, rfl⟩ tracedActions
  have hlast := htraces Document.traces Document.keepsTraces rfl [] tracedActions (.new "world")
    (List.nil_append _).symm rfl hstays
  have hempty : traced.run [] = traced := rfl
  rw [hempty, htold] at hlast
  rw [hstats] at hdispatches hcalls hsources
  dsimp only at hdispatches hcalls hsources ⊢
  -- From here on the run is a variable: the unifier would run the engine to compare numbers.
  generalize traced.episodesIn tracedActions = episodes at *
  generalize traced.run tracedActions = w at *
  exact ⟨hstats, hdispatches, hcalls, hsources, hlast⟩

end World

end EventScripts
