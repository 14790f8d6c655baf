import EventScripts.Proofs.TokenSafety

/-!
# Probes and dispatches

A probe tells a new site whether the function that it is going to call is there. If no function is
asked for a field while the name is looked up, the probe leaves the engine as it is, and finds a
function exactly if a dispatch at once would. The token that it gives then makes no difference to a
dispatch on a new token; a broken one makes the dispatch skipped. On a closed engine a probe finds
nothing, but the site is not lost: the next machine that is made leaves its token behind.
-/

set_option autoImplicit false

namespace EventScripts

open Script

namespace Operation

variable {H : Type} [Host H] {s : Session H} {live : Live}

/-! ## What a probe does -/

/-- A probe of a closed engine changes nothing and gives a broken token. -/
theorem resolveToken_of_closed (h : s.engine.live = none) (name : String) :
    s.after (resolveToken name) = s ∧
    s.answer (resolveToken name) = ⟨.broken, s.engine.generation⟩ := by
  unfold resolveToken
  simp only [Session.after_bind, Session.answer_bind, Session.after_get, Session.answer_get, h]
  exact ⟨rfl, rfl⟩

/-- A probe of an open engine is a lookup, and its token tells whether there is a function. -/
theorem resolveToken_of_open (h : s.engine.live = some live) (name : String) :
    s.after (resolveToken name) = s.after (findFunction live name) ∧
    s.answer (resolveToken name) =
      ⟨if (s.answer (findFunction live name)).1.isSome then .resolved else .broken,
        s.engine.generation⟩ := by
  unfold resolveToken
  simp only [Session.after_bind, Session.answer_bind, Session.after_get, Session.answer_get, h]
  exact ⟨rfl, rfl⟩

/-- A probe of an open engine settles the token by what the lookup of the name gives. -/
theorem answer_resolveToken_of_open (h : s.engine.live = some live) (name : String) :
    (s.answer (resolveToken name) = ⟨.resolved, s.engine.generation⟩ ∧
      (Machine.run (lookupFunction name) (live.vm.among s.around.files)).1 ≠ .ok none) ∨
    (s.answer (resolveToken name) = ⟨.broken, s.engine.generation⟩ ∧
      (Machine.run (lookupFunction name) (live.vm.among s.around.files)).1 = .ok none) := by
  obtain ⟨f, vm, hlookup⟩ := run_lookupFunction name (live.vm.among s.around.files)
  rw [(resolveToken_of_open h name).2, answer_findFunction hlookup, hlookup]
  cases f with
  | none => exact .inr ⟨rfl, rfl⟩
  | some f => exact .inl ⟨rfl, nofun⟩

/-- A probe in which no function runs only puts the machine back. -/
theorem after_resolveToken_of_peek (h : s.engine.live = some live) {name : String}
    (hpeek : live.vm.settled.peek name ≠ none) :
    s.after (resolveToken name) = s.after (putVm live.vm.settled) := by
  obtain ⟨r, hr⟩ := Option.ne_none_iff_exists'.mp hpeek
  rw [(resolveToken_of_open h name).1]
  unfold findFunction
  rw [Session.after_bind, Session.after_bind, Session.after_runOn, Session.answer_runOn,
    run_lookupFunction_of_peek ((live.vm.peek_among _ _).trans hr), Surroundings.undergo_among]
  rfl

/-! ## Dispatches in a machine that has been put back -/

/-- It makes no difference whether a trace comes before or after a machine is put back. -/
theorem after_traceDispatch_putVm (s : Session H) (vm : Vm) (r : Request) :
    (s.after (putVm vm)).after (traceDispatch r) =
      (s.after (traceDispatch r)).after (putVm vm) := by
  unfold traceDispatch
  simp only [Session.after_bind, Session.after_get, Session.answer_get]
  have hsettings : (s.after (putVm vm)).engine.settings = s.engine.settings := rfl
  rw [hsettings]
  cases s.engine.settings.traceDispatch <;> rfl

omit [Host H] in
/-- Of two machines that are put back the last one counts. -/
theorem after_putVm_putVm (s : Session H) (first second : Vm) :
    (s.after (putVm first)).after (putVm second) = s.after (putVm second) := by
  unfold putVm
  rw [Session.after_onEngine, Session.after_onEngine, Session.after_onEngine]
  dsimp only
  rw [Option.map_map]
  rfl

/-- The lookup for a dispatch begins in the machine with an empty journal, and puts the machine
that it leaves into the engine, whichever was there. -/
theorem findFunction_putVm (s : Session H) (live : Live) (vm : Vm) (name : String) :
    (s.after (putVm vm)).after (findFunction { live with vm := live.vm.settled } name) =
      s.after (findFunction live name) ∧
    (s.after (putVm vm)).answer (findFunction { live with vm := live.vm.settled } name) =
      s.answer (findFunction live name) := by
  constructor
  · exact after_putVm_putVm (s.after (runOn live.vm (lookupFunction name))) vm _
  · rfl

/-- A dispatch on a machine does not see which one is put back before it. -/
theorem runSite_putVm (s : Session H) (live : Live) (vm : Vm) (r : Request)
    (arguments : Machine (List Value)) :
    (s.after (putVm vm)).after (runSite { live with vm := live.vm.settled } r arguments) =
      s.after (runSite live r arguments) ∧
    (s.after (putVm vm)).answer (runSite { live with vm := live.vm.settled } r arguments) =
      s.answer (runSite live r arguments) := by
  obtain ⟨hafter, hanswer⟩ := findFunction_putVm s live vm r.procedure
  unfold runSite
  rw [Session.after_bind, Session.answer_bind, hafter, hanswer]
  exact ⟨rfl, rfl⟩

/-- Nor does a dispatch with its trace and its scope. -/
theorem scopedRun_putVm (s : Session H) (live : Live) (vm : Vm) (r : Request)
    (arguments : Machine (List Value)) :
    (s.after (putVm vm)).after (scopedRun { live with vm := live.vm.settled } r arguments) =
      s.after (scopedRun live r arguments) ∧
    (s.after (putVm vm)).answer (scopedRun { live with vm := live.vm.settled } r arguments) =
      s.answer (scopedRun live r arguments) := by
  unfold scopedRun
  rw [Session.after_bind, Session.answer_bind, after_traceDispatch_putVm, Session.after_bind,
    Session.answer_bind]
  generalize s.after (traceDispatch r) = traced
  have hentered : (traced.after (putVm vm)).entered = traced.entered.after (putVm vm) := rfl
  obtain ⟨hafter, hanswer⟩ := runSite_putVm traced.entered live vm r arguments
  constructor
  · rw [Session.after_inScope, Session.after_inScope, hentered, hafter]
    rfl
  · rw [Session.answer_inScope, Session.answer_inScope, hentered, hanswer]

/-- That the machine has been put back makes no difference to a dispatch that is not skipped. -/
theorem callSite_putVm (h : s.engine.live = some live) {token : Token}
    (hb : (token.sync s.engine.generation).isBroken = false) (r : Request)
    (arguments : Machine (List Value)) (counter : Nat) :
    (s.after (putVm live.vm.settled)).after (callSite token r arguments counter) =
      s.after (callSite token r arguments counter) ∧
    (s.after (putVm live.vm.settled)).answer (callSite token r arguments counter) =
      s.answer (callSite token r arguments counter) := by
  have hput : (s.after (putVm live.vm.settled)).engine.live =
      some { live with vm := live.vm.settled } := by
    unfold putVm
    rw [Session.after_onEngine]
    dsimp only
    rw [h]
    rfl
  have hgeneration : (s.after (putVm live.vm.settled)).engine.generation = s.engine.generation :=
    rfl
  obtain ⟨hafter, hanswer⟩ := callSite_of_open r arguments counter h hb
  obtain ⟨hafter', hanswer'⟩ := callSite_of_open r arguments counter hput hb
  obtain ⟨hrun, houtcome⟩ := scopedRun_putVm s live live.vm.settled r arguments
  rw [hafter, hanswer, hafter', hanswer', hrun, houtcome, hgeneration]
  exact ⟨rfl, rfl⟩

/-! ## Dispatches on different tokens -/

/-- Only the generation of the engine and the state that a token has in it count for a dispatch. -/
theorem callSite_of_sync_eq (h : s.engine.live = some live) {token other : Token}
    (hsync : token.sync s.engine.generation = other.sync s.engine.generation) (r : Request)
    (arguments : Machine (List Value)) (counter : Nat) :
    s.after (callSite token r arguments counter) = s.after (callSite other r arguments counter) ∧
    s.answer (callSite token r arguments counter) =
      s.answer (callSite other r arguments counter) := by
  unfold callSite
  simp only [Session.after_bind, Session.answer_bind, Session.after_get, Session.answer_get, h,
    hsync, and_self]

/-- A new token is unresolved in every generation. -/
theorem sync_fresh (generation : Nat) :
    Token.fresh.sync generation = ⟨.unresolved, generation⟩ := by
  cases generation with
  | zero => rfl
  | succ n => exact Token.sync_of_lt (Nat.succ_pos n)

/-- A new token is broken in no generation. -/
theorem isBroken_sync_fresh (generation : Nat) :
    (Token.fresh.sync generation).isBroken = false := by
  rw [sync_fresh]
  rfl

/-- A token that is resolved in the generation of the engine makes no difference to a new one. -/
theorem callSite_of_resolved (h : s.engine.live = some live) (r : Request)
    (arguments : Machine (List Value)) (counter : Nat) :
    s.after (callSite ⟨.resolved, s.engine.generation⟩ r arguments counter) =
      s.after (callSite .fresh r arguments counter) ∧
    s.answer (callSite ⟨.resolved, s.engine.generation⟩ r arguments counter) =
      s.answer (callSite .fresh r arguments counter) := by
  have hsync : (⟨.resolved, s.engine.generation⟩ : Token).sync s.engine.generation =
      ⟨.resolved, s.engine.generation⟩ := Token.sync_of_le (Nat.le_refl _)
  have hfresh := sync_fresh s.engine.generation
  -- Whatever the run comes to, both tokens end up in the same state.
  have hconclude : ∀ run : SiteRun,
      (concludeSite ⟨.resolved, s.engine.generation⟩ r counter run :
          OperationOn H (Dispatched (List Value))) =
        concludeSite ⟨.unresolved, s.engine.generation⟩ r counter run := by
    intro run
    cases run <;> rfl
  have hopen : ((⟨.resolved, s.engine.generation⟩ : Token).sync s.engine.generation).isBroken =
      false := by
    rw [hsync]
    rfl
  obtain ⟨hafter, hanswer⟩ := callSite_of_open r arguments counter h hopen
  obtain ⟨hafter', hanswer'⟩ := callSite_of_open r arguments counter h (isBroken_sync_fresh _)
  rw [hafter, hanswer, hafter', hanswer', hsync, hfresh, hconclude]
  exact ⟨rfl, rfl⟩

/-! ## Both kinds of dispatch -/

/-- Dispatches of a request, of both kinds, answer the same on one token in one session as on
another token in another session, and leave the same session. -/
structure GoAlike (s : Session H) (t : Token) (s' : Session H) (t' : Token) (r : Request)
    (counter : Nat) : Prop where
  answer : s.answer (dispatch t r counter) = s'.answer (dispatch t' r counter)
  after : s.after (dispatch t r counter) = s'.after (dispatch t' r counter)
  answerText : ∀ text,
    s.answer (dispatchText t r text counter) = s'.answer (dispatchText t' r text counter)
  afterText : ∀ text,
    s.after (dispatchText t r text counter) = s'.after (dispatchText t' r text counter)

/-- Dispatches of a request, of both kinds, are skipped on a token, and leave a session. -/
structure Skipped (s : Session H) (t : Token) (r : Request) (counter : Nat) (left : Session H) :
    Prop where
  answer : s.answer (dispatch t r counter) = ⟨t, counter, .ok .skipped⟩
  after : s.after (dispatch t r counter) = left
  answerText : ∀ text, s.answer (dispatchText t r text counter) = ⟨t, counter, .ok .skipped⟩
  afterText : ∀ text, s.after (dispatchText t r text counter) = left

/-- Dispatches go alike if the calls of their sites do, whatever the arguments. -/
theorem goAlike_of_callSite {s' : Session H} {t t' : Token} {r : Request} {counter : Nat}
    (h : ∀ arguments,
      s.after (callSite t r arguments counter) = s'.after (callSite t' r arguments counter) ∧
      s.answer (callSite t r arguments counter) = s'.answer (callSite t' r arguments counter)) :
    GoAlike s t s' t' r counter where
  answer := congrArg (Dispatched.map _) (h r.arguments).2
  after := (h r.arguments).1
  answerText text := congrArg (Dispatched.map _) (h (pure (textArguments text))).2
  afterText text := (h (pure (textArguments text))).1

/-- Dispatches are skipped if the calls of their sites are, whatever the arguments. -/
theorem skipped_of_callSite {left : Session H} {t : Token} {r : Request} {counter : Nat}
    (h : ∀ arguments, s.after (callSite t r arguments counter) = left ∧
      s.answer (callSite t r arguments counter) = ⟨t, counter, .ok .skipped⟩) :
    Skipped s t r counter left where
  answer := congrArg (Dispatched.map _) (h r.arguments).2
  after := (h r.arguments).1
  answerText text := congrArg (Dispatched.map _) (h (pure (textArguments text))).2
  afterText text := (h (pure (textArguments text))).1

/-- A dispatch on a new token fails for want of a function exactly if the lookup gives none. -/
theorem answer_callSite_fresh_iff (h : s.engine.live = some live) (r : Request)
    (arguments : Machine (List Value)) (counter : Nat) :
    (∀ name, (s.answer (callSite .fresh r arguments counter)).answer ≠
        .error (.resolution name)) ↔
      (Machine.run (lookupFunction r.procedure) (live.vm.among s.around.files)).1 ≠ .ok none := by
  rw [(callSite_of_open r arguments counter h (isBroken_sync_fresh _)).2, answer_concludeSite,
    ne_eq, ← scopedRun_notFound_iff s live r arguments]
  cases s.answer (scopedRun live r arguments) <;> simp [SiteRun.dispatched]

/-- What a probe in `s`, that gave `t` and left `s'`, tells about the dispatches of a request that
are made after it. It made no difference to them. The token is resolved exactly if they do not fail
for want of a function; they are then the same on it as on a new one. Else it is broken, and they
are skipped on it. -/
structure Foretells (s : Session H) (t : Token) (s' : Session H) (r : Request) (counter : Nat) :
    Prop where
  untouched : GoAlike s' .fresh s .fresh r counter
  resolved_iff : t.state = .resolved ↔
    ∀ name, (s'.answer (dispatch .fresh r counter)).answer ≠ .error (.resolution name)
  resolved_iff_text : ∀ text, t.state = .resolved ↔
    ∀ name, (s'.answer (dispatchText .fresh r text counter)).answer ≠ .error (.resolution name)
  resolved : t.state = .resolved → GoAlike s' t s' .fresh r counter
  broken : t.state ≠ .resolved → t.state = .broken ∧
    Skipped s' t r counter (s'.after (count fun c => { c with skipped := c.skipped + 1 }))

/-- On a resolved token dispatches are the same as on a new one. -/
theorem goAlike_of_resolved (h : s.engine.live = some live) (r : Request) (counter : Nat) :
    GoAlike s ⟨.resolved, s.engine.generation⟩ s .fresh r counter :=
  goAlike_of_callSite fun arguments => callSite_of_resolved h r arguments counter

/-- On a token of an earlier generation dispatches are the same as on a new one. -/
theorem goAlike_of_behind {t : Token} (h : s.engine.live = some live)
    (ht : t.generation < s.engine.generation) (r : Request) (counter : Nat) :
    GoAlike s t s .fresh r counter := by
  have hsync : t.sync s.engine.generation = Token.fresh.sync s.engine.generation := by
    rw [Token.sync_of_lt ht, sync_fresh]
  exact goAlike_of_callSite fun arguments => callSite_of_sync_eq h hsync r arguments counter

/-- On a token that broke in this generation dispatches are skipped and counted. -/
theorem skipped_of_broken (h : s.engine.live = some live) (r : Request) (counter : Nat) :
    Skipped s ⟨.broken, s.engine.generation⟩ r counter
      (s.after (count fun c => { c with skipped := c.skipped + 1 })) := by
  have hsync : (⟨.broken, s.engine.generation⟩ : Token).sync s.engine.generation =
      ⟨.broken, s.engine.generation⟩ := Token.sync_of_le (Nat.le_refl _)
  have hbroken : ((⟨.broken, s.engine.generation⟩ : Token).sync s.engine.generation).isBroken =
      true := by
    rw [hsync]
    rfl
  refine skipped_of_callSite fun arguments => ?_
  obtain ⟨hafter, hanswer⟩ := callSite_of_broken r arguments counter h hbroken
  rw [hafter, hanswer, hsync]
  exact ⟨rfl, rfl⟩

/-- A probe of an open engine tells about the dispatches after it, if no function runs in it. -/
theorem foretells_of_peek (h : s.engine.live = some live) {r : Request}
    (hpeek : live.vm.settled.peek r.procedure ≠ none) (counter : Nat) :
    Foretells s (s.answer (resolveToken r.procedure)) (s.after (resolveToken r.procedure)) r
      counter := by
  rw [after_resolveToken_of_peek h hpeek]
  have huntouched := fun arguments =>
    callSite_putVm h (isBroken_sync_fresh _) r arguments counter
  have hput : ∃ live', (s.after (putVm live.vm.settled)).engine.live = some live' :=
    ⟨{ live with vm := live.vm.settled }, congrArg (Option.map _) h⟩
  have hgeneration : s.engine.generation = (s.after (putVm live.vm.settled)).engine.generation :=
    rfl
  obtain ⟨live', hlive'⟩ := hput
  have hanswer := answer_resolveToken_of_open h r.procedure
  generalize s.answer (resolveToken r.procedure) = t at hanswer ⊢
  have hlookup : t.state = .resolved ↔
      (Machine.run (lookupFunction r.procedure) (live.vm.among s.around.files)).1 ≠
        .ok none := by
    rcases hanswer with ⟨rfl, hfound⟩ | ⟨rfl, hnone⟩
    · exact iff_of_true rfl hfound
    · exact iff_of_false nofun fun hfound => hfound hnone
  have hresolution : ∀ arguments, t.state = .resolved ↔ ∀ name,
      ((s.after (putVm live.vm.settled)).answer
        (callSite .fresh r arguments counter)).answer ≠ .error (.resolution name) := by
    intro arguments
    rw [hlookup, (huntouched arguments).2, answer_callSite_fresh_iff h]
  refine ⟨goAlike_of_callSite huntouched, ?_, fun text => ?_, fun hresolved => ?_, fun hnot => ?_⟩
  · unfold dispatch
    rw [hresolution r.arguments, Session.answer_map]
    simp only [ne_eq, answer_map_error_iff]
  · unfold dispatchText
    rw [hresolution (pure (textArguments text)), Session.answer_map]
    simp only [ne_eq, answer_map_error_iff]
  · rcases hanswer with ⟨rfl, -⟩ | ⟨rfl, -⟩
    · rw [hgeneration]
      exact goAlike_of_resolved hlive' r counter
    · cases hresolved
  · rcases hanswer with ⟨rfl, -⟩ | ⟨rfl, -⟩
    · exact absurd rfl hnot
    · rw [hgeneration]
      exact ⟨rfl, skipped_of_broken hlive' r counter⟩

end Operation

namespace World

variable {H : Type} [Host H]

omit [Host H] in
/-- A closed engine has no machine. -/
theorem live_eq_none_of_closed {w : World H} (h : w.isOpen = false) :
    w.session.engine.live = none := by
  simpa [isOpen, Engine.isOpen] using h

/-- A probe of an open engine, in which no function is asked for a field, tells about the dispatches
after it. A probe of a closed engine changes nothing and gives a broken token, on which dispatches
are skipped and change nothing as long as no machine is made. Once one has been made, they are on
the same token just as on a new one. -/
theorem probes_foretell_dispatches (w : World H) (site : Nat) (r : Request) :
    let v := w.after (.probe site r.procedure)
    (∀ live, w.session.engine.live = some live → live.vm.settled.peek r.procedure ≠ none →
      ∀ counter, Operation.Foretells w.session (v.tokens site) v.session r counter) ∧
    (w.isOpen = false → v.session = w.session ∧ (v.tokens site).isBroken = true ∧
      ∀ actions : List (Action H), let u := v.run actions
        (v.makesMachineIn actions = false → ∀ q counter,
          Operation.Skipped u.session (v.tokens site) q counter u.session) ∧
        (v.makesMachineIn actions = true → u.isOpen = true → ∀ q counter,
          Operation.GoAlike u.session (v.tokens site) u.session .fresh q counter)) := by
  intro v
  have htoken : v.tokens site = w.session.answer (Operation.resolveToken r.procedure) :=
    tokens_settle_self _ site _
  refine ⟨fun live hlive hpeek counter => ?_, fun hclosed => ?_⟩
  · rw [htoken]
    exact Operation.foretells_of_peek hlive hpeek counter
  · obtain ⟨hsession, hbroken⟩ :=
      Operation.resolveToken_of_closed (live_eq_none_of_closed hclosed) r.procedure
    have hsame : v.session = w.session := hsession
    rw [htoken, hbroken]
    refine ⟨hsame, rfl, fun actions => ⟨?_, ?_⟩⟩
    · intro hmakes q counter
      have hstill : (v.run actions).isOpen = false := by
        refine isOpen_run_of_makesNone ?_ hmakes
        unfold isOpen
        rw [hsame]
        exact hclosed
      exact Operation.skipped_of_callSite fun arguments =>
        Operation.callSite_of_closed _ q arguments counter (live_eq_none_of_closed hstill)
    · intro hmakes hopen q counter
      obtain ⟨live, hlive⟩ := Option.isSome_iff_exists.mp hopen
      have hlater : w.session.engine.generation < (v.run actions).session.engine.generation := by
        rw [← hsame]
        exact generation_lt_run hmakes
      exact Operation.goAlike_of_behind hlive hlater q counter

/-- A request for a function of the standard library. -/
def printing : Request := .new "print" "trigger" ""

/-- A probe for it finds it in an engine that is open, and not in one that is closed; there the site
is as good as a new one after the engine has been opened. -/
theorem probes_foretell_dispatches_printing :
    let w := bare.run [.openEngine]
    let v := w.after (.probe 0 printing.procedure)
    let closed := bare.after (.probe 0 printing.procedure)
    (v.tokens 0).state = .resolved ∧
      Operation.GoAlike v.session (v.tokens 0) v.session .fresh printing 0 ∧
      (closed.tokens 0).isBroken = true ∧
      Operation.GoAlike (closed.run [.openEngine]).session (closed.tokens 0)
        (closed.run [.openEngine]).session .fresh printing 0 := by
  intro w v closed
  have hpeek : (w.session.engine.live.map fun live =>
      (live.vm.settled.peek printing.procedure).isSome) = some true := by
    decide +kernel
  have hresolved : (v.tokens 0).state = .resolved := by
    decide +kernel
  have hmakes : closed.makesMachineIn [.openEngine] = true := by
    decide +kernel
  have hopen : (closed.run [.openEngine]).isOpen = true := by
    decide +kernel
  obtain ⟨live, hlive, hsome⟩ := Option.map_eq_some_iff.mp hpeek
  have hopened := probes_foretell_dispatches w 0 printing
  have hclosed := (probes_foretell_dispatches bare 0 printing).2 rfl
  refine ⟨hresolved, ?_, hclosed.2.1, ?_⟩
  · refine (hopened.1 live hlive ?_ 0).resolved hresolved
    exact Option.isSome_iff_ne_none.mp hsome
  · exact (hclosed.2.2 [.openEngine]).2 hmakes hopen printing 0

end World

end EventScripts
