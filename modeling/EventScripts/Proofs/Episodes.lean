import EventScripts.Proofs.EngineRuns
import EventScripts.Proofs.FileRuns
import EventScripts.Proofs.SiteCalls

/-!
# Episodes of a run

What an action does to an open engine falls into episodes: sources that are loaded and run, and
dispatches that are skipped or run in a scope. An action has at most two of them; an opening runs
the source of the function that checks return codes, and then the sandbox script. Between the
episodes an engine makes and takes away machines, probes names and changes the state of the host
around a run, which is the background of a run.

A statement about all episodes of a run is proved in three steps: it holds of the background, it
holds of each kind of episode, and it can be put together. `Chronicle` is what these three steps
come to.
-/

set_option autoImplicit false

namespace EventScripts

open Script

/-! ## Sources and dispatches -/

/-- What the run of a source comes to. -/
inductive SourceRun where
  | notLoaded (message : String)
  | failed (message : String)
  | finished

/-- What a source comes to that was loaded and called. -/
def SourceRun.ofCall : Except String (List Value) → SourceRun
  | .ok _ => .finished
  | .error message => .failed message

/-- A source or a dispatch that an open engine was asked for, and the session in which it is
concluded. -/
inductive Episode (H : Type) where
  /-- A dispatch that a broken token cut short. -/
  | skipped
  | site (r : Request) (run : Operation.SiteRun) (concluding : Session H)
  | source (run : SourceRun) (concluding : Session H)

namespace Operation

variable {H : Type} [Host H]

/-- Loads a source under a label and runs it, without concluding anything from that. -/
def attempt (live : Live) (source : List Step) (label : String) : OperationOn H SourceRun := do
  match load (textBytes label) source with
  | .error e => pure (.notLoaded e.message)
  | .ok code =>
    count fun s => { s with protectedCalls := s.protectedCalls + 1 }
    SourceRun.ofCall <$> callCode live code

/-- What is concluded from the run of a source. -/
def concludeAttempt (label : String) : SourceRun → OperationOn H (Except ScriptError Unit)
  | .notLoaded message => do
    count fun s => { s with compileErrors := s.compileErrors + 1 }
    report compileEvent none message
    pure (.error (.compile label message))
  | .failed message => concludeSource label (.error message)
  | .finished => concludeSource label (.ok [])

/-- A source is run, and then concluded from. -/
theorem runSource_eq (live : Live) (source : List Step) (label : String) :
    (runSource live source label : OperationOn H (Except ScriptError Unit)) =
      attempt live source label >>= concludeAttempt label := by
  have hconclude : ∀ result : Except String (List Value),
      (concludeSource label result : OperationOn H (Except ScriptError Unit)) =
        concludeAttempt label (SourceRun.ofCall result) := by
    intro result
    cases result <;> rfl
  unfold runSource attempt
  cases load (textBytes label) source with
  | error e => rfl
  | ok code =>
    dsimp only
    simp only [bind_assoc, bind_map_left, ← hconclude]

/-- If counting is allowed for too, so is all of a source before its conclusion. -/
theorem Inner.attempt {R : Session H → Session H → Prop} (hR : Inner R)
    (hcount : ∀ f, Leads R (count f)) (live : Live) (source : List Step) (label : String) :
    Leads R (attempt live source label) := by
  unfold Operation.attempt
  split
  · exact hR.pure _
  · refine hR.bind (hcount _) fun _ => ?_
    exact leads_map (hR.runProtected live _) _

/-- The conclusion of a source is all on the side. -/
theorem Unnoted.concludeAttempt {γ : Type} {view : Session H → γ} (hview : Unnoted view)
    (label : String) (run : SourceRun) : Keeps view (concludeAttempt label run) := by
  cases run with
  | notLoaded message =>
    refine keeps_bind (hview.count _) fun _ => ?_
    exact keeps_bind (hview.report _ _ _) fun _ => keeps_pure _
  | failed message =>
    refine keeps_bind (hview.count _) fun _ => ?_
    exact keeps_bind (hview.report _ _ _) fun _ => keeps_pure _
  | finished => exact keeps_bind hview.time fun _ => keeps_pure _

end Operation

/-! ## The episodes of an action -/

namespace Session

variable {H : Type} [Host H]

open Operation

/-- The episode of a source that is run in a machine. -/
def sourceEpisode (s : Session H) (live : Live) (source : List Step) (label : String) : Episode H :=
  .source (s.answer (attempt live source label)) (s.after (attempt live source label))

/-- The episode of the execution of a source, none if the engine is closed. -/
def executed (s : Session H) (source : List Step) (label : String) : List (Episode H) :=
  match s.engine.live with
  | none => []
  | some live => [s.sourceEpisode live source label]

/-- The episode of the sandbox script, none if there is no such script. -/
def sandboxed (s : Session H) : List (Episode H) :=
  match s.engine.settings.sandbox, s.engine.live with
  | some source, some live =>
    [(s.entered.after (onAround (·.setOrigin .sandbox))).sourceEpisode live source sandboxLabel]
  | _, _ => []

/-- The episodes of an opening, none if the engine is open or no machine can be made. -/
def opened (s : Session H) : List (Episode H) :=
  if s.engine.isOpen then []
  else match s.answer prepare with
    | .error _ => []
    | .ok live =>
      let t := (s.after prepare).mounted live
      t.executed Check.source Check.label ++
        (t.after (execute Check.source Check.label)).sandboxed

/-- The episode of a dispatch, none if the engine is closed. -/
def called (s : Session H) (token : Token) (r : Request) (arguments : Machine (List Value)) :
    List (Episode H) :=
  match s.engine.live with
  | none => []
  | some live =>
    if (token.sync s.engine.generation).isBroken then [.skipped]
    else [.site r (s.answer (scopedRun live r arguments)) (s.after (scopedRun live r arguments))]

end Session

/-- Whether an action attaches or detaches a host. -/
def Action.movesHost {H : Type} : Action H → Bool
  | .attach _ => true
  | .detach => true
  | _ => false

namespace World

variable {H : Type} [Host H]

/-- The episodes of an action. -/
def episodes (w : World H) : Action H → List (Episode H)
  | .openEngine => w.session.opened
  | .reset => (w.session.after Operation.close).opened
  | .execute source label => w.session.executed source label
  | .dispatch site r _ => w.session.called (w.tokens site) r r.arguments
  | .dispatchText site r text _ =>
    w.session.called (w.tokens site) r (pure (textArguments text))
  | _ => []

/-- The episode of a dispatch of either kind is that of the call of its site. -/
theorem episodes_of_call {a : Action H} {c : SiteCall} (w : World H) (h : a.call? = some c) :
    w.episodes a = w.session.called (w.tokens c.site) c.request c.arguments := by
  cases a <;> cases h <;> rfl

/-- A dispatch finds the engine closed, is skipped, or is the episode of its run in a scope, from
which its answer is read off. -/
theorem call_cases {a : Action H} {c : SiteCall} (w : World H) (h : a.call? = some c) :
    (w.isOpen = false ∧ w.episodes a = [] ∧
      w.verdict a = some ⟨w.tokens c.site, c.counter, .ok .skipped⟩) ∨
    (w.isOpen = true ∧ w.episodes a = [.skipped] ∧
      w.verdict a = some
        ⟨(w.tokens c.site).sync w.session.engine.generation, c.counter, .ok .skipped⟩) ∨
    (∃ live run u, w.session.engine.live = some live ∧
      run = w.session.answer (Operation.scopedRun live c.request c.arguments) ∧
      w.episodes a = [.site c.request run u] ∧
      w.verdict a = some ((run.dispatched
        ((w.tokens c.site).sync w.session.engine.generation) c.request c.counter).map
          fun _ => ())) := by
  rw [episodes_of_call w h, verdict_of_call w h]
  unfold Session.called callOf isOpen Engine.isOpen
  cases hlive : w.session.engine.live with
  | none =>
    rw [(Operation.callSite_of_closed _ _ _ _ hlive).2]
    exact .inl ⟨rfl, rfl, rfl⟩
  | some live =>
    dsimp only
    cases hbroken : ((w.tokens c.site).sync w.session.engine.generation).isBroken with
    | true =>
      rw [(Operation.callSite_of_broken _ _ _ hlive hbroken).2, if_pos rfl]
      exact .inr (.inl ⟨rfl, rfl, rfl⟩)
    | false =>
      rw [(Operation.callSite_of_open _ _ _ hlive hbroken).2, Operation.answer_concludeSite,
        if_neg Bool.false_ne_true]
      exact .inr (.inr ⟨live, _, _, rfl, rfl, rfl, rfl⟩)

/-- What each action of a run comes to, in order. -/
def along {β : Type} (f : World H → Action H → β) (w : World H) : List (Action H) → List β
  | [] => []
  | a :: rest => f w a :: (w.after a).along f rest

/-- The episodes of a run. -/
def episodesIn (w : World H) (actions : List (Action H)) : List (Episode H) :=
  (w.along episodes actions).flatten

/-- What the actions of two parts of a run come to is put together. -/
theorem along_append {β : Type} (f : World H → Action H → β) (w : World H)
    (first second : List (Action H)) :
    w.along f (first ++ second) = w.along f first ++ (w.run first).along f second := by
  induction first generalizing w with
  | nil => rfl
  | cons a rest ih =>
    rw [List.cons_append, along, along, ih, List.cons_append, run_cons]

/-- What a run comes to somewhere is what the action at that place comes to. -/
theorem mem_along_iff {β : Type} {f : World H → Action H → β} {w : World H}
    {actions : List (Action H)} {x : β} :
    x ∈ w.along f actions ↔
      ∃ first a last, actions = first ++ a :: last ∧ x = f (w.run first) a := by
  constructor
  · intro hx
    induction actions generalizing w with
    | nil => cases hx
    | cons a rest ih =>
      rw [along, List.mem_cons] at hx
      rcases hx with rfl | hx
      · exact ⟨[], a, rest, rfl, rfl⟩
      · obtain ⟨first, b, last, hrest, hb⟩ := ih hx
        refine ⟨a :: first, b, last, ?_, ?_⟩
        · rw [hrest, List.cons_append]
        · rw [hb, run_cons]
  · rintro ⟨first, a, last, rfl, rfl⟩
    rw [along_append, along]
    exact List.mem_append_right _ List.mem_cons_self

end World

/-! ## The background of a run -/

namespace Operation

variable {H : Type}

variable [Host H]

/-- A relation between earlier and later sessions that allows for the background of a run: the
machine and the index, what scripts do to the host and ask of the files, the log, and the state of
the host around a run. -/
structure Background (R : Session H → Session H → Prop) : Prop where
  refl : ∀ s, R s s
  trans : ∀ {s t u}, R s t → R t u → R s u
  machine : ∀ (s : Session H) (live : Option Live) (generation : Nat) (index : NameIndex),
    R s { s with engine := { s.engine with live, generation }, index }
  undergo : ∀ (s : Session H) (vm : Vm), vm.files = s.around.files.serveAll vm.asked →
    R s { s with around := s.around.undergo vm }
  log : ∀ line, Leads R (writeLog line)
  style : ∀ t, Leads R (onAround (·.onHost (Host.setStyle t)))
  origin : ∀ o, Leads R (onAround (·.onHost (Host.setOrigin o)))
  time : Leads R (onAround (·.onHost Host.addTime))

/-- What a view shows of the session stays the same in the background if it shows nothing of the
machine, the notes, the files and the log, and nothing of the host that is changed there. -/
theorem background_of_view {γ : Type} {view : Session H → γ}
    (machine : ∀ (s : Session H) (live : Option Live) (generation : Nat) (index : NameIndex),
      view { s with engine := { s.engine with live, generation }, index } = view s)
    (aside : ∀ (s : Session H) (notes : List Note) (files : FileTree) (asked : List FileRequest)
      (log : List LogLine), view { s with around := { s.around with notes, files, asked, log } } =
        view s)
    (absorb : ∀ e, Keeps view (onAround (·.onHost (Host.absorb e))))
    (style : ∀ t, Keeps view (onAround (·.onHost (Host.setStyle t))))
    (origin : ∀ o, Keeps view (onAround (·.onHost (Host.setOrigin o))))
    (time : Keeps view (onAround (·.onHost Host.addTime))) :
    Background fun s t => view t = view s where
  refl _ := rfl
  trans hst htu := htu.trans hst
  machine := machine
  undergo := by
    have hinner := inner_of_view
      (fun vm s => machine s _ s.engine.generation s.index) aside absorb style origin
    exact hinner.undergo
  log line s := aside s s.around.notes s.around.files s.around.asked (s.around.log ++ [line])
  style := style
  origin := origin
  time := time

namespace Background

variable {R : Session H → Session H → Prop} (hR : Background R)

include hR

/-- What is done inside of runs is background. -/
theorem inner : Inner R where
  refl := hR.refl
  trans := hR.trans
  machine _ s := hR.machine s _ s.engine.generation s.index
  undergo := hR.undergo
  style := hR.style
  origin := hR.origin

/-- Mounting a machine is background. -/
theorem mounted (s : Session H) (live : Live) : R s (s.mounted live) :=
  hR.trans (hR.machine s (some live) _ s.index) (hR.log _ _)

/-- Closing is background. -/
theorem close : Leads R (close : OperationOn H Unit) := by
  unfold Operation.close
  refine hR.inner.bind hR.refl fun s => ?_
  split
  · refine hR.inner.bind ?_ fun _ => hR.log _
    exact fun t => hR.machine t none t.engine.generation t.index
  · exact hR.inner.pure _

/-- A machine is made ready in the background. -/
theorem prepare : Leads R (prepare : OperationOn H (Except ScriptError Live)) := by
  have hindex : ∀ vm : Vm, Leads R (populateIndex vm : OperationOn H Unit) := by
    intro vm
    unfold populateIndex
    refine hR.inner.bind hR.refl fun s => ?_
    obtain ⟨index, filled⟩ := s.index.populate vm
    refine hR.inner.bind ?_ fun _ => ?_
    · exact fun t => hR.machine t t.engine.live t.engine.generation index
    · cases filled with
      | false => exact hR.inner.pure ()
      | true =>
        cases index.names with
        | none => exact hR.inner.pure ()
        | some names => exact hR.log names.line
  -- Each of the two runs fails outright, ends with a fault or goes on.
  unfold Operation.prepare
  refine hR.inner.bind hR.refl fun s => ?_
  refine hR.inner.bind (hR.inner.runOn _ _) fun first => ?_
  obtain ⟨(e | (fault | ⟨⟩)), vm⟩ := first
  · exact hR.inner.pure _
  · exact hR.inner.pure _
  · refine hR.inner.bind (hindex _) fun _ => ?_
    refine hR.inner.bind (hR.inner.runOn _ _) fun last => ?_
    obtain ⟨(e | (fault | invoker)), vm⟩ := last <;> exact hR.inner.pure _

end Background

/-! ## Chronicles -/

/-- A statement about the episodes between two sessions that can be put together, and that holds of
the background and of every single episode. -/
structure Chronicle (P : Session H → List (Episode H) → Session H → Prop) : Prop where
  trans : ∀ {s t u : Session H} {es es' : List (Episode H)},
    P s es t → P t es' u → P s (es ++ es') u
  background : ∀ {s t : Session H},
    (∀ {R : Session H → Session H → Prop}, Background R → R s t) → P s [] t
  skipped : ∀ s : Session H,
    P s [.skipped] (s.after (count fun c => { c with skipped := c.skipped + 1 }))
  source : ∀ (s : Session H) (live : Live) (source : List Step) (label : String),
    P s [s.sourceEpisode live source label] (s.after (runSource live source label))
  site : ∀ (s : Session H) (live : Live) (token : Token) (r : Request)
    (arguments : Machine (List Value)) (counter : Nat),
    P s [.site r (s.answer (scopedRun live r arguments)) (s.after (scopedRun live r arguments))]
      ((s.after (scopedRun live r arguments)).after
        (concludeSite token r counter (s.answer (scopedRun live r arguments))))

namespace Chronicle

variable {P : Session H → List (Episode H) → Session H → Prop} (hP : Chronicle P)

include hP

/-- Background in front of episodes adds none. -/
theorem lead {s t u : Session H} {es : List (Episode H)} (hquiet : P s [] t) (h : P t es u) :
    P s es u :=
  hP.trans hquiet h

/-- The execution of a source is its episode. -/
theorem executed (s : Session H) (source : List Step) (label : String) :
    P s (s.executed source label) (s.after (execute source label)) := by
  unfold Session.executed execute
  rw [Session.after_bind, Session.answer_get, Session.after_get]
  cases s.engine.live with
  | none => exact hP.background fun hR => hR.refl _
  | some live => exact hP.source s live source label

/-- The run of the sandbox script is its episode, in a scope. -/
theorem sandboxed (s : Session H) : P s s.sandboxed (s.after runSandbox) := by
  unfold Session.sandboxed runSandbox
  rw [Session.after_bind, Session.answer_get, Session.after_get]
  dsimp only
  cases s.engine.settings.sandbox with
  | none => exact hP.background fun hR => hR.refl _
  | some source =>
    cases s.engine.live with
    | none => exact hP.background fun hR => hR.refl _
    | some live =>
      dsimp only
      rw [Session.after_inScope, Session.after_bind, Session.after_discard]
      generalize hbegun : s.entered.after (onAround (·.setOrigin .sandbox)) = begun
      have hentered : P s [] begun := by
        refine hP.background fun hR => ?_
        rw [← hbegun]
        exact hR.trans (hR.style .normal s) (hR.inner.setOrigin _ _)
      have hleft : P (begun.after (runSource live source sandboxLabel)) []
          ((begun.after (runSource live source sandboxLabel)).after
            (onAround (·.leave s.around.enter.1))) :=
        hP.background fun hR => hR.inner.leave _ _
      exact hP.lead hentered (hP.trans (hP.source begun live source sandboxLabel) hleft)

/-- An opening is the episodes of the first two sources of its machine, if it makes one. -/
theorem opened (s : Session H) : P s s.opened (s.after openEngine) := by
  unfold Session.opened
  cases hopen : s.engine.isOpen with
  | true =>
    rw [(openEngine_of_open hopen).1, if_pos rfl]
    exact hP.background fun hR => hR.refl _
  | false =>
    rw [if_neg Bool.false_ne_true]
    cases hprepare : s.answer prepare with
    | error e =>
      rw [(openEngine_of_error hopen hprepare).1]
      exact hP.background fun hR => hR.prepare s
    | ok live =>
      have hmounted : P s [] ((s.after prepare).mounted live) :=
        hP.background fun hR => hR.trans (hR.prepare s) (hR.mounted _ live)
      rw [(openEngine_of_ok hopen hprepare).1, Session.after_install]
      exact hP.lead hmounted (hP.trans (hP.executed _ _ _) (hP.sandboxed _))

/-- A dispatch is its episode. -/
theorem called (s : Session H) (token : Token) (r : Request) (arguments : Machine (List Value))
    (counter : Nat) :
    P s (s.called token r arguments) (s.after (callSite token r arguments counter)) := by
  unfold Session.called
  cases hlive : s.engine.live with
  | none =>
    rw [(callSite_of_closed token r arguments counter hlive).1]
    exact hP.background fun hR => hR.refl _
  | some live =>
    dsimp only
    cases hbroken : (token.sync s.engine.generation).isBroken with
    | true =>
      rw [if_pos rfl, (callSite_of_broken r arguments counter hlive hbroken).1]
      exact hP.skipped s
    | false =>
      rw [if_neg Bool.false_ne_true, (callSite_of_open r arguments counter hlive hbroken).1]
      exact hP.site s live (token.sync s.engine.generation) r arguments counter

/-- An action is its episodes, unless it attaches or detaches a host. -/
theorem after {w : World H} {a : Action H} (h : a.movesHost = false) :
    P w.session (w.episodes a) (w.after a).session := by
  cases a with
  | openEngine => exact hP.opened w.session
  | close => exact hP.background fun hR => hR.close w.session
  | reset =>
    have hclosed : P w.session [] (w.session.after close) :=
      hP.background fun hR => hR.close w.session
    exact hP.lead hclosed (hP.opened _)
  | attach d => cases h
  | detach => cases h
  | execute source label => exact hP.executed w.session source label
  | probe site name => exact hP.background fun hR => hR.inner.resolveToken name w.session
  | copy origin site => exact hP.background fun hR => hR.refl _
  | dispatch site r counter =>
    rw [World.after_of_call w rfl]
    exact hP.called w.session (w.tokens site) r r.arguments counter
  | dispatchText site r text counter =>
    rw [World.after_of_call w rfl]
    exact hP.called w.session (w.tokens site) r (pure (textArguments text)) counter

/-- A run is its episodes, if the statement allows for the hosts that are attached and detached. -/
theorem run {w : World H} {actions : List (Action H)}
    (hmoved : ∀ a ∈ actions, a.movesHost = true → ∀ v : World H,
      P v.session [] (v.after a).session) :
    P w.session (w.episodesIn actions) (w.run actions).session := by
  induction actions generalizing w with
  | nil => exact hP.background fun hR => hR.refl _
  | cons a rest ih =>
    have hrest := ih (w := w.after a) fun b hb => hmoved b (List.mem_cons_of_mem a hb)
    have hfirst : P w.session (w.episodes a) (w.after a).session := by
      cases hmove : a.movesHost with
      | false => exact hP.after hmove
      | true =>
        have hnone : w.episodes a = [] := by
          cases a with
          | attach d => rfl
          | detach => rfl
          | _ => cases hmove
        rw [hnone]
        exact hmoved a List.mem_cons_self hmove w
    exact hP.trans hfirst hrest

end Chronicle

end Operation

end EventScripts
