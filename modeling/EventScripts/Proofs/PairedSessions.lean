import Mathlib.Data.List.Forall2
import Mathlib.Data.List.ReduceOption
import EventScripts.Proofs.Episodes

/-!
# Two sessions side by side

Two sessions, with hosts of possibly different types, go through the same operations. A relation
pairs them if what counts for scripts is the same in both, their files agree but for some that are
private, and the elementary operations lead from related sessions to related ones. As long as the
requests of the first session leave the private files alone, everything an engine does then answers
the same in both, goes through the same episodes and leaves related sessions.

What counts for scripts are the machine, the counts and the index, and the settings that scripts
depend on. The host, the presenter, the error log and the tracing of dispatches are not among it.
-/

set_option autoImplicit false

namespace EventScripts

open Script

/-- What counts of a session for the scripts that run in it. -/
structure Inside where
  live : Option Live
  sandbox : Option (List Step)
  allowNative : Bool
  selection : Selection
  stats : Stats
  generation : Nat
  index : NameIndex

namespace Session

variable {H : Type}

/-- What counts of a session for scripts. -/
def inside (s : Session H) : Inside where
  live := s.engine.live
  sandbox := s.engine.settings.sandbox
  allowNative := s.engine.settings.allowNative
  selection := s.engine.selection
  stats := s.engine.stats
  generation := s.engine.generation
  index := s.index

/-- A session with what changes of its engine and with an index. -/
def refit (s : Session H) (live : Option Live) (stats : Stats) (generation : Nat)
    (index : NameIndex) : Session H :=
  { s with engine := { s.engine with live, stats, generation }, index }

/-- The path of the error log. -/
def logPath (s : Session H) : String := s.engine.reporter.logPath

/-! ## Requests on the way -/

/-- From one session to another these requests were made to the files, and the error log is where it
was. -/
structure Asks (s : Session H) (requests : List FileRequest) (t : Session H) : Prop where
  logPath : t.logPath = s.logPath
  asked : t.around.asked = s.around.asked ++ requests

/-- From one session to another requests were made, and a statement holds if all of these leave the
private files alone. -/
def Sparing (logs : List String) (s t : Session H) (P : Prop) : Prop :=
  ∃ requests, s.Asks requests t ∧ ((∀ q ∈ requests, q.LeavesAlone logs) → P)

/-- The requests that an operation makes to the files. -/
def requests {α : Type} (s : Session H) (op : OperationOn H α) : List FileRequest :=
  (s.after op).around.asked.drop s.around.asked.length

variable {s t u : Session H} {logs : List String} {P Q : Prop}

/-- No request is made by what leaves the history of requests as it is. -/
theorem Asks.of_eq (hlog : t.logPath = s.logPath) (hasked : t.around.asked = s.around.asked) :
    s.Asks [] t :=
  ⟨hlog, by rw [hasked, List.append_nil]⟩

/-- Requests are made one after the other. -/
theorem Asks.trans {first last : List FileRequest} (hst : s.Asks first t) (htu : t.Asks last u) :
    s.Asks (first ++ last) u :=
  ⟨htu.logPath.trans hst.logPath, by rw [htu.asked, hst.asked, List.append_assoc]⟩

/-- The requests on a way are those by which the history of requests has grown. -/
theorem Asks.eq_drop {requests : List FileRequest} (h : s.Asks requests t) :
    requests = t.around.asked.drop s.around.asked.length := by
  rw [h.asked, List.drop_left]

/-- What is so without a request is so. -/
theorem Sparing.of_asks_nil (h : s.Asks [] t) (hP : P) : s.Sparing logs t P :=
  ⟨[], h, fun _ => hP⟩

/-- Before the requests of a way something may be done that makes none. -/
theorem Sparing.lead (hst : s.Asks [] t) (h : t.Sparing logs u P) : s.Sparing logs u P := by
  obtain ⟨requests, hasks, hP⟩ := h
  exact ⟨requests, hst.trans hasks, hP⟩

/-- After the requests of a way something may be done that makes none. -/
theorem Sparing.follow (h : s.Sparing logs t P) (htu : t.Asks [] u) : s.Sparing logs u P := by
  obtain ⟨requests, hasks, hP⟩ := h
  exact ⟨requests ++ [], hasks.trans htu, fun hclear => hP (by simpa using hclear)⟩

/-- Two statements hold if each of them does. -/
theorem Sparing.and (hP : s.Sparing logs t P) (hQ : s.Sparing logs t Q) :
    s.Sparing logs t (P ∧ Q) := by
  obtain ⟨requests, hasks, hP⟩ := hP
  obtain ⟨requests', hasks', hQ⟩ := hQ
  rw [hasks'.eq_drop, ← hasks.eq_drop] at hQ
  exact ⟨requests, hasks, fun hclear => ⟨hP hclear, hQ hclear⟩⟩

/-- What follows from the statement holds too. -/
theorem Sparing.imp (h : s.Sparing logs t P) (himp : P → Q) : s.Sparing logs t Q := by
  obtain ⟨requests, hasks, hP⟩ := h
  exact ⟨requests, hasks, fun hclear => himp (hP hclear)⟩

/-- The statement holds if the requests that were made leave the private files alone. -/
theorem Sparing.elim (h : s.Sparing logs t P)
    (hclear : ∀ q ∈ t.around.asked.drop s.around.asked.length, q.LeavesAlone logs) : P := by
  obtain ⟨requests, hasks, hP⟩ := h
  rw [← hasks.eq_drop] at hclear
  exact hP hclear

end Session

namespace Operation

variable {H H' α β : Type}

/-! ## Operations that answer alike -/

/-- Begun in related sessions, two operations answer the same and leave related sessions, as long as
the requests of the first one leave the private files alone. -/
def Alike (logs : List String) (R : Session H → Session H' → Prop) (op : OperationOn H α)
    (op' : OperationOn H' α) : Prop :=
  ∀ s t, R s t → s.Sparing logs (s.after op)
    (s.answer op = t.answer op' ∧ R (s.after op) (t.after op'))

variable {logs : List String} {R : Session H → Session H' → Prop}

/-- Giving the same value is alike. -/
theorem alike_pure (a : α) : Alike logs R (pure a) (pure a) :=
  fun _ _ hst => .of_asks_nil (.of_eq rfl rfl) ⟨rfl, hst⟩

/-- A function of the answers makes no difference. -/
theorem alike_map {x : OperationOn H α} {x' : OperationOn H' α} (hx : Alike logs R x x')
    (f : α → β) : Alike logs R (f <$> x) (f <$> x') :=
  fun s t hst => (hx s t hst).imp fun ⟨hanswer, hafter⟩ => ⟨congrArg f hanswer, hafter⟩

/-- What is done after the session has been read may depend on it, as long as it is alike in related
sessions. -/
theorem alike_get {f : Session H → OperationOn H α} {f' : Session H' → OperationOn H' α}
    (h : ∀ s t, R s t → s.Sparing logs (s.after (f s))
      (s.answer (f s) = t.answer (f' t) ∧ R (s.after (f s)) (t.after (f' t)))) :
    Alike logs R (get >>= f) (get >>= f') :=
  h

/-- The path of the error log and the requests that were made. -/
def trail (s : Session H) : String × List FileRequest := (s.logPath, s.around.asked)

/-- Operations without an answer are alike if they lead from related sessions to related ones and
the first one makes no request. -/
theorem alike_of_trail {op : OperationOn H Unit} {op' : OperationOn H' Unit}
    (htrail : Keeps trail op) (h : ∀ s t, R s t → R (s.after op) (t.after op')) :
    Alike logs R op op' := by
  intro s t hst
  obtain ⟨hlog, hasked⟩ := Prod.mk.inj (htrail s)
  exact .of_asks_nil (.of_eq hlog hasked) ⟨rfl, h s t hst⟩

variable [Host H] [Host H']

omit [Host H'] in
/-- To give the host an origin is no request. -/
theorem keeps_trail_setOrigin (o : Origin) :
    Keeps trail (onAround (·.setOrigin o) : OperationOn H Unit) :=
  keeps_setOrigin (fun _ _ => rfl) o

/-- A relation that pairs sessions: the same counts for scripts, the files agree but for the private
ones, and what is done outside of the machine leads from related sessions to related ones. -/
structure Pairs (logs : List String) (R : Session H → Session H' → Prop) : Prop where
  /-- There is a session to compare with, whatever the first one has become. -/
  total : ∀ s, s.logPath ∈ logs → ∃ t, R s t
  isPrivate : ∀ {s t}, R s t → s.logPath ∈ logs
  inside : ∀ {s t}, R s t → s.inside = t.inside
  files : ∀ {s t}, R s t → s.around.files.AgreeBut logs t.around.files
  refit : ∀ {s t}, R s t → ∀ live stats generation index,
    R (s.refit live stats generation index) (t.refit live stats generation index)
  undergo : ∀ {s t}, R s t → ∀ {vm vm' : Vm}, vm'.toStore = vm.toStore → vm'.asked = vm.asked →
    vm.files.AgreeBut logs vm'.files →
    R { s with around := s.around.undergo vm } { t with around := t.around.undergo vm' }
  log : ∀ {s t}, R s t → ∀ line, R (s.after (writeLog line)) (t.after (writeLog line))
  trace : ∀ {s t}, R s t → ∀ r, R (s.after (traceDispatch r)) (t.after (traceDispatch r))
  origin : ∀ {s t}, R s t → ∀ o,
    R (s.after (onAround (·.setOrigin o))) (t.after (onAround (·.setOrigin o)))
  time : ∀ {s t}, R s t →
    R (s.after (onAround (·.onHost Host.addTime))) (t.after (onAround (·.onHost Host.addTime)))
  report : ∀ {s t}, R s t → ∀ event context text,
    R (s.after (report event context text)) (t.after (report event context text))
  enter : ∀ {s t}, R s t → R s.entered t.entered
  leave : ∀ {s t u v}, R s t → R u v →
    R (u.after (onAround (·.leave s.around.enter.1)))
      (v.after (onAround (·.leave t.around.enter.1)))

namespace Pairs

variable (hR : Pairs logs R)

include hR

/-- A way can be put together from two. What comes after the first session has gone its first part
is known for every session that may be beside it then, so it goes on in any case. -/
theorem trans {s u x : Session H} {v : Session H'} {P : Prop} {Q : Session H' → Prop}
    (hs : s.logPath ∈ logs) (h : s.Sparing logs u (P ∧ R u v))
    (hrest : ∀ v, R u v → u.Sparing logs x (Q v)) : s.Sparing logs x (P ∧ Q v) := by
  obtain ⟨first, hfirst, hP⟩ := h
  obtain ⟨v', huv'⟩ := hR.total u (hfirst.logPath ▸ hs)
  obtain ⟨last, hlast, -⟩ := hrest v' huv'
  refine ⟨first ++ last, hfirst.trans hlast, fun hclear => ?_⟩
  obtain ⟨hclearFirst, hclearLast⟩ := List.forall_mem_append.mp hclear
  obtain ⟨hP, huv⟩ := hP hclearFirst
  exact ⟨hP, (hrest v huv).elim (hlast.eq_drop ▸ hclearLast)⟩

/-- Sequences are alike if both of their halves are. -/
theorem bind {x : OperationOn H α} {x' : OperationOn H' α} {f : α → OperationOn H β}
    {f' : α → OperationOn H' β} (hx : Alike logs R x x') (hf : ∀ a, Alike logs R (f a) (f' a)) :
    Alike logs R (x >>= f) (x' >>= f') := by
  intro s t hst
  rw [Session.after_bind, Session.after_bind, Session.answer_bind, Session.answer_bind]
  refine (hR.trans (hR.isPrivate hst) (hx s t hst) (hf (s.answer x) _)).imp ?_
  rintro ⟨hanswer, hrest⟩
  rw [← hanswer]
  exact hrest

/-! ## What counts for scripts -/

/-- Paired sessions have the same machine. -/
theorem live {s : Session H} {t : Session H'} (hst : R s t) :
    s.engine.live = t.engine.live :=
  congrArg Inside.live (hR.inside hst)

/-- Paired sessions are in the same generation. -/
theorem generation {s : Session H} {t : Session H'} (hst : R s t) :
    s.engine.generation = t.engine.generation :=
  congrArg Inside.generation (hR.inside hst)

/-- What counts for scripts may change depending on what it was. -/
theorem change {s : Session H} {t : Session H'} (hst : R s t) (live : Inside → Option Live)
    (stats : Inside → Stats) (generation : Inside → Nat) (index : Inside → NameIndex) :
    R (s.refit (live s.inside) (stats s.inside) (generation s.inside) (index s.inside))
      (t.refit (live t.inside) (stats t.inside) (generation t.inside) (index t.inside)) := by
  rw [hR.inside hst]
  exact hR.refit hst _ _ _ _

/-- Counting is alike. -/
theorem count (f : Stats → Stats) : Alike logs R (count f) (count f) :=
  alike_of_trail (fun _ => rfl) fun _ _ hst =>
    hR.change hst (·.live) (fun i => f i.stats) (·.generation) (·.index)

/-- Putting the same machine back is alike. -/
theorem putVm (vm : Vm) : Alike logs R (putVm vm) (putVm vm) := by
  refine alike_of_trail (fun _ => rfl) fun s t hst => ?_
  exact hR.change hst (fun i => i.live.map fun live : Live => ⟨vm, live.invoker⟩)
    (·.stats) (·.generation) (·.index)

/-! ## What is done outside of the machine -/

/-- Writing the same line to the log is alike. -/
theorem writeLog (line : LogLine) : Alike logs R (writeLog line) (writeLog line) :=
  alike_of_trail (fun _ => rfl) fun _ _ hst => hR.log hst line

/-- The traces of a request are alike. -/
theorem traceDispatch (r : Request) : Alike logs R (traceDispatch r) (traceDispatch r) :=
  alike_of_trail (keeps_traceDispatch (fun _ _ => rfl) r) fun _ _ hst => hR.trace hst r

/-- The origin of a request is set alike. -/
theorem setOrigin (o : Origin) :
    Alike logs R (onAround (·.setOrigin o)) (onAround (·.setOrigin o)) :=
  alike_of_trail (keeps_trail_setOrigin o) fun _ _ hst => hR.origin hst o

/-- Script time is added alike. -/
theorem addTime :
    Alike logs R (onAround (·.onHost Host.addTime)) (onAround (·.onHost Host.addTime)) :=
  alike_of_trail (fun _ => rfl) fun _ _ hst => hR.time hst

/-- The reports of a failure are alike. -/
theorem reporting (event : String) (context : Option CallContext) (text : String) :
    Alike logs R (Operation.report event context text) (Operation.report event context text) := by
  refine alike_of_trail (fun s => ?_) fun _ _ hst => hR.report hst event context text
  exact congrArg (Prod.mk s.logPath)
    (s.engine.reporter.asked_report event context text s.around)

/-! ## Runs on a machine -/

/-- A run never sees the session, and of the files only what its requests are answered. -/
theorem runOn (vm : Vm) (m : Machine α) : Alike logs R (runOn vm m) (runOn vm m) := by
  intro s t hst
  refine ⟨(Machine.run m (vm.among s.around.files)).2.asked, ⟨rfl, rfl⟩, fun hclear => ?_⟩
  obtain ⟨hresult, hstore, hasked, hfiles⟩ :=
    Machine.run_among_agree m vm (hR.files hst) hclear
  have hsettled : (Machine.run m (vm.among t.around.files)).2.settled =
      (Machine.run m (vm.among s.around.files)).2.settled :=
    congrArg (fun store : Store => ({ store.settled with files := .fresh, asked := [] } : Vm))
      hstore
  rw [Session.answer_runOn, Session.answer_runOn, hresult, hsettled]
  exact ⟨rfl, hR.undergo hst hstore hasked hfiles⟩

/-- What is alike is alike in a scope. -/
theorem inScope {op : OperationOn H α} {op' : OperationOn H' α} (h : Alike logs R op op') :
    Alike logs R (inScope op) (inScope op') := by
  intro s t hst
  have hentered : s.Asks [] s.entered := .of_eq rfl rfl
  have hscoped : s.entered.Sparing logs (s.entered.after op)
      (s.answer (Operation.inScope op) = t.answer (Operation.inScope op') ∧
        R (s.after (Operation.inScope op)) (t.after (Operation.inScope op'))) :=
    (h _ _ (hR.enter hst)).imp fun ⟨hanswer, hafter⟩ => ⟨hanswer, hR.leave hst hafter⟩
  exact .lead hentered (hscoped.follow (.of_eq rfl rfl))

/-- The same function is found. -/
theorem findFunction (live : Live) (name : String) :
    Alike logs R (findFunction live name) (findFunction live name) := by
  unfold Operation.findFunction
  refine hR.bind (hR.runOn _ _) fun found => ?_
  exact hR.bind (hR.putVm _) fun _ => alike_pure _

/-- Protected calls are alike. -/
theorem runProtected (live : Live) (m : Machine (Except String (List Value))) :
    Alike logs R (runProtected live m) (runProtected live m) := by
  unfold Operation.runProtected
  refine hR.bind (hR.runOn _ _) fun result => ?_
  refine hR.bind (hR.putVm _) fun _ => ?_
  cases result.1 <;> exact alike_pure _

/-! ## Sources -/

/-- A source is loaded and run alike. -/
theorem attempt (live : Live) (source : List Step) (label : String) :
    Alike logs R (attempt live source label) (attempt live source label) := by
  unfold Operation.attempt
  split
  · exact alike_pure _
  · refine hR.bind (hR.count _) fun _ => ?_
    exact alike_map (hR.runProtected _ _) _

/-- What became of a source is concluded alike. -/
theorem concludeAttempt (label : String) (run : SourceRun) :
    Alike logs R (concludeAttempt label run) (concludeAttempt label run) := by
  cases run with
  | notLoaded message =>
    refine hR.bind (hR.count _) fun _ => ?_
    exact hR.bind (hR.reporting _ _ _) fun _ => alike_pure _
  | failed message =>
    refine hR.bind (hR.count _) fun _ => ?_
    exact hR.bind (hR.reporting _ _ _) fun _ => alike_pure _
  | finished => exact hR.bind hR.addTime fun _ => alike_pure _

/-- Sources are alike. -/
theorem runSource (live : Live) (source : List Step) (label : String) :
    Alike logs R (runSource live source label) (runSource live source label) := by
  rw [runSource_eq, runSource_eq]
  exact hR.bind (hR.attempt live source label) fun run => hR.concludeAttempt label run

/-- The execution of a source is alike, whether the engine is open or not. -/
theorem execute (source : List Step) (label : String) :
    Alike logs R (execute source label) (execute source label) := by
  unfold Operation.execute
  refine alike_get fun s t hst => ?_
  rw [hR.live hst]
  cases t.engine.live with
  | none => exact alike_pure _ s t hst
  | some live => exact hR.runSource live source label s t hst

/-! ## Dispatches -/

/-- Dispatches are alike until they are concluded. -/
theorem runSite (live : Live) (r : Request) (arguments : Machine (List Value)) :
    Alike logs R (runSite live r arguments) (runSite live r arguments) := by
  unfold Operation.runSite
  refine hR.bind (hR.findFunction _ _) fun found => ?_
  obtain ⟨_ | f, live⟩ := found
  · exact alike_pure _
  · refine hR.bind (hR.setOrigin _) fun _ => ?_
    refine hR.bind (hR.count _) fun _ => ?_
    exact alike_map (hR.runProtected _ _) _

/-- So they are with their traces and their scopes. -/
theorem scopedRun (live : Live) (r : Request) (arguments : Machine (List Value)) :
    Alike logs R (scopedRun live r arguments) (scopedRun live r arguments) :=
  hR.bind (hR.traceDispatch r) fun _ => hR.inScope (hR.runSite live r arguments)

/-- What became of a dispatch is concluded alike. -/
theorem concludeSite (token : Token) (r : Request) (counter : Nat) (run : SiteRun) :
    Alike logs R (concludeSite token r counter run) (concludeSite token r counter run) := by
  cases run with
  | notFound =>
    refine hR.bind (hR.count _) fun _ => ?_
    exact hR.bind (hR.writeLog _) fun _ => alike_pure _
  | failed message =>
    refine hR.bind (hR.count _) fun _ => ?_
    exact hR.bind (hR.reporting _ _ _) fun _ => alike_pure _
  | returned results => exact hR.bind hR.addTime fun _ => alike_pure _

/-- The call of a site is alike on each of its three ways. -/
theorem callSite (token : Token) (r : Request) (arguments : Machine (List Value)) (counter : Nat) :
    Alike logs R (callSite token r arguments counter) (callSite token r arguments counter) := by
  unfold Operation.callSite
  refine alike_get fun s t hst => ?_
  dsimp only
  rw [hR.live hst, hR.generation hst]
  cases t.engine.live with
  | none => exact alike_pure _ s t hst
  | some live =>
    dsimp only
    split
    · exact hR.bind (hR.count _) (fun _ => alike_pure _) s t hst
    · have hopen : Alike logs R _ _ := hR.bind (hR.scopedRun live r arguments) fun run =>
        hR.concludeSite (token.sync t.engine.generation) r counter run
      exact hopen s t hst

/-- Dispatches of a request are alike. -/
theorem dispatch (token : Token) (r : Request) (counter : Nat) :
    Alike logs R (dispatch token r counter) (dispatch token r counter) :=
  alike_map (hR.callSite token r r.arguments counter) _

/-- Dispatches of a text are alike. -/
theorem dispatchText (token : Token) (r : Request) (text : Bytes) (counter : Nat) :
    Alike logs R (dispatchText token r text counter) (dispatchText token r text counter) :=
  alike_map (hR.callSite token r _ counter) _

/-- Probes are alike. -/
theorem resolveToken (name : String) : Alike logs R (resolveToken name) (resolveToken name) := by
  unfold Operation.resolveToken
  refine alike_get fun s t hst => ?_
  dsimp only
  rw [hR.live hst, hR.generation hst]
  cases t.engine.live with
  | none => exact alike_pure _ s t hst
  | some live => exact hR.bind (hR.findFunction _ _) (fun _ => alike_pure _) s t hst

/-- Closing is alike: there is a machine to take away in both sessions or in none. -/
theorem close : Alike logs R (close : OperationOn H Unit) (close : OperationOn H' Unit) := by
  unfold Operation.close Engine.isOpen
  refine alike_get fun s t hst => ?_
  rw [hR.live hst]
  split
  · have hclosed : Alike logs R (onEngine fun e => { e with live := none })
        (onEngine fun e => { e with live := none }) :=
      alike_of_trail (fun _ => rfl) fun _ _ huv =>
        hR.change huv (fun _ => none) (·.stats) (·.generation) (·.index)
    exact hR.bind hclosed (fun _ => hR.writeLog _) s t hst
  · exact alike_pure () s t hst

end Pairs

end Operation

/-! ## Openings -/

namespace Operation

variable {H H' : Type} [Host H] [Host H'] {logs : List String}
  {R : Session H → Session H' → Prop}

/-- The hosts of related sessions register the same in a new machine. -/
def RegisterAlike (R : Session H → Session H' → Prop) : Prop :=
  ∀ s t, R s t → ∀ selection,
    firstSteps s.around.host selection = firstSteps t.around.host selection

namespace Pairs

variable (hR : Pairs logs R)

include hR

/-- The index is filled alike. -/
theorem populateIndex (vm : Vm) :
    Alike logs R (populateIndex vm : OperationOn H Unit)
      (populateIndex vm : OperationOn H' Unit) := by
  unfold Operation.populateIndex
  refine alike_get fun s t hst => ?_
  have hindex : s.index = t.index := congrArg Inside.index (hR.inside hst)
  rw [hindex]
  obtain ⟨index, filled⟩ := t.index.populate vm
  have hset : Alike logs R (modify fun s => { s with index }) (modify fun s => { s with index }) :=
    alike_of_trail (fun _ => rfl) fun _ _ huv =>
      hR.change huv (·.live) (·.stats) (·.generation) fun _ => index
  refine (hR.bind hset fun _ => ?_) s t hst
  cases filled with
  | false => exact alike_pure ()
  | true =>
    cases index.names with
    | none => exact alike_pure ()
    | some names => exact hR.writeLog names.line

/-- The sandbox script is run alike. -/
theorem runSandbox :
    Alike logs R (runSandbox : OperationOn H Unit) (runSandbox : OperationOn H' Unit) := by
  unfold Operation.runSandbox
  refine alike_get fun s t hst => ?_
  have hsandbox : s.engine.settings.sandbox = t.engine.settings.sandbox :=
    congrArg Inside.sandbox (hR.inside hst)
  dsimp only
  rw [hsandbox, hR.live hst]
  split
  · rename_i source live _ _
    have hscoped := hR.inScope (hR.bind (hR.setOrigin .sandbox) fun _ =>
      alike_map (hR.runSource live source sandboxLabel) fun _ => ())
    exact hscoped s t hst
  · exact alike_pure () s t hst

/-- A machine is mounted alike. -/
theorem mount (live : Live) :
    Alike logs R
      (onEngine fun e => { e with live := some live, generation := e.generation + 1 })
      (onEngine fun e => { e with live := some live, generation := e.generation + 1 }) :=
  alike_of_trail (fun _ => rfl) fun _ _ hst =>
    hR.change hst (fun _ => some live) (·.stats) (fun i => i.generation + 1) (·.index)

/-- What is run in a new engine is alike. -/
theorem install (live : Live) : Alike logs R (install live) (install live) := by
  unfold Operation.install
  refine hR.bind (hR.mount live) fun _ => ?_
  refine hR.bind (hR.writeLog _) fun _ => ?_
  exact hR.bind (alike_map (hR.execute _ _) _) fun _ => hR.runSandbox

variable (hregister : RegisterAlike R)

include hregister

/-- The machine that is made is the same if the hosts register the same. -/
theorem prepare : Alike logs R (prepare : OperationOn H (Except ScriptError Live))
    (prepare : OperationOn H' (Except ScriptError Live)) := by
  unfold Operation.prepare
  refine alike_get fun s t hst => ?_
  have hselection : s.engine.selection = t.engine.selection :=
    congrArg Inside.selection (hR.inside hst)
  have hnative : s.engine.settings.allowNative = t.engine.settings.allowNative :=
    congrArg Inside.allowNative (hR.inside hst)
  rw [hregister s t hst, hselection, hnative]
  -- Each of the two runs fails outright, ends with a fault or goes on.
  refine (hR.bind (hR.runOn _ _) fun first => ?_) s t hst
  obtain ⟨(e | (fault | ⟨⟩)), vm⟩ := first
  · exact alike_pure _
  · exact alike_pure _
  · refine hR.bind (hR.populateIndex _) fun _ => ?_
    refine hR.bind (hR.runOn _ _) fun last => ?_
    obtain ⟨(e | (fault | invoker)), vm⟩ := last <;> exact alike_pure _

/-- Openings are alike if the hosts register alike. -/
theorem openEngine : Alike logs R (openEngine : OperationOn H (Except ScriptError Unit))
    (openEngine : OperationOn H' (Except ScriptError Unit)) := by
  unfold Operation.openEngine Engine.isOpen
  refine alike_get fun s t hst => ?_
  rw [hR.live hst]
  split
  · exact alike_pure _ s t hst
  · refine (hR.bind (hR.prepare hregister) fun made => ?_) s t hst
    cases made with
    | error e => exact alike_pure _
    | ok live => exact hR.bind (hR.install live) fun _ => alike_pure _

/-- Resets are alike if the hosts register alike. -/
theorem reset : Alike logs R (reset : OperationOn H (Except ScriptError Unit))
    (reset : OperationOn H' (Except ScriptError Unit)) :=
  hR.bind hR.close fun _ => hR.openEngine hregister

end Pairs

end Operation

/-! ## Episodes side by side -/

/-- The same episode, concluded in related sessions. -/
inductive Episode.Paired {H H' : Type} (R : Session H → Session H' → Prop) :
    Episode H → Episode H' → Prop
  | skipped : Paired R .skipped .skipped
  | site {r : Request} {run : Operation.SiteRun} {u : Session H} {v : Session H'} (h : R u v) :
      Paired R (.site r run u) (.site r run v)
  | source {run : SourceRun} {u : Session H} {v : Session H'} (h : R u v) :
      Paired R (.source run u) (.source run v)

namespace Operation.Pairs

variable {H H' : Type} [Host H] [Host H'] {logs : List String}
  {R : Session H → Session H' → Prop} (hR : Pairs logs R) {s : Session H} {t : Session H'}
  (hst : R s t)

include hR hst

/-- The run of a source is the same episode in related sessions. -/
theorem sourceEpisode (live : Live) (source : List Step) (label : String) :
    s.Sparing logs (s.after (Operation.runSource live source label))
      (Episode.Paired R (s.sourceEpisode live source label)
        (t.sourceEpisode live source label)) := by
  rw [runSource_eq, Session.after_bind]
  refine (hR.trans (hR.isPrivate hst) (hR.attempt live source label s t hst)
    fun v huv => (hR.concludeAttempt label _ _ v huv).imp fun _ => huv).imp ?_
  rintro ⟨hrun, hconcluding⟩
  unfold Session.sourceEpisode
  rw [hrun]
  exact .source hconcluding

/-- The execution of a source is the same episode in related sessions, if it is one. -/
theorem executed (source : List Step) (label : String) :
    s.Sparing logs (s.after (Operation.execute source label))
      (List.Forall₂ (Episode.Paired R) (s.executed source label) (t.executed source label)) := by
  unfold Session.executed Operation.execute
  rw [Session.after_bind, Session.answer_get, Session.after_get, ← hR.live hst]
  cases s.engine.live with
  | none => exact .of_asks_nil (.of_eq rfl rfl) .nil
  | some live => exact (hR.sourceEpisode hst live source label).imp fun h => .cons h .nil

/-- The run of the sandbox script is the same episode in related sessions, if there is one. -/
theorem sandboxed :
    s.Sparing logs (s.after Operation.runSandbox)
      (List.Forall₂ (Episode.Paired R) s.sandboxed t.sandboxed) := by
  have hsandbox : s.engine.settings.sandbox = t.engine.settings.sandbox :=
    congrArg Inside.sandbox (hR.inside hst)
  unfold Session.sandboxed Operation.runSandbox
  rw [Session.after_bind, Session.answer_get, Session.after_get, ← hR.live hst, ← hsandbox]
  dsimp only
  cases s.engine.settings.sandbox with
  | none => exact .of_asks_nil (.of_eq rfl rfl) .nil
  | some source =>
    cases s.engine.live with
    | none => exact .of_asks_nil (.of_eq rfl rfl) .nil
    | some live =>
      dsimp only
      rw [Session.after_inScope, Session.after_bind, Session.after_discard]
      have hbegun := hR.origin (hR.enter hst) .sandbox
      have hepisode := (hR.sourceEpisode hbegun live source sandboxLabel).imp
        fun h => List.Forall₂.cons h .nil
      obtain ⟨hlog, hasked⟩ := Prod.mk.inj (keeps_trail_setOrigin .sandbox s.entered)
      exact .lead (.of_eq hlog hasked) (hepisode.follow (.of_eq rfl rfl))

/-- A dispatch is the same episode in related sessions, if it is one. -/
theorem called (token : Token) (r : Request) (arguments : Machine (List Value)) (counter : Nat) :
    s.Sparing logs (s.after (Operation.callSite token r arguments counter))
      (List.Forall₂ (Episode.Paired R) (s.called token r arguments)
        (t.called token r arguments)) := by
  unfold Session.called
  rw [← hR.live hst, ← hR.generation hst]
  cases hlive : s.engine.live with
  | none =>
    rw [(callSite_of_closed token r arguments counter hlive).1]
    exact .of_asks_nil (.of_eq rfl rfl) .nil
  | some live =>
    dsimp only
    cases hbroken : (token.sync s.engine.generation).isBroken with
    | true =>
      rw [(callSite_of_broken r arguments counter hlive hbroken).1, if_pos rfl, if_pos rfl]
      exact .of_asks_nil (.of_eq rfl rfl) (.cons .skipped .nil)
    | false =>
      rw [(callSite_of_open r arguments counter hlive hbroken).1, if_neg Bool.false_ne_true,
        if_neg Bool.false_ne_true]
      refine (hR.trans (hR.isPrivate hst) (hR.scopedRun live r arguments s t hst)
        fun v huv => (hR.concludeSite _ r counter _ _ v huv).imp fun _ => huv).imp ?_
      rintro ⟨hrun, hconcluding⟩
      rw [hrun]
      exact .cons (.site hconcluding) .nil

/-- An opening is the same episodes in related sessions whose hosts register the same. -/
theorem opened (hregister : RegisterAlike R) :
    s.Sparing logs (s.after Operation.openEngine)
      (List.Forall₂ (Episode.Paired R) s.opened t.opened) := by
  have hsame : s.engine.isOpen = t.engine.isOpen := congrArg Option.isSome (hR.live hst)
  have hprepared := hR.prepare hregister s t hst
  unfold Session.opened
  rw [← hsame]
  cases hopen : s.engine.isOpen with
  | true =>
    rw [(openEngine_of_open hopen).1, if_pos rfl, if_pos rfl]
    exact .of_asks_nil (.of_eq rfl rfl) .nil
  | false =>
    rw [if_neg Bool.false_ne_true, if_neg Bool.false_ne_true]
    cases hmade : s.answer Operation.prepare with
    | error e =>
      rw [(openEngine_of_error hopen hmade).1]
      refine hprepared.imp fun ⟨hanswer, _⟩ => ?_
      rw [← hanswer, hmade]
      exact .nil
    | ok live =>
      have hmounted : s.Sparing logs ((s.after Operation.prepare).mounted live)
          (t.answer Operation.prepare = .ok live ∧
            R ((s.after Operation.prepare).mounted live)
              ((t.after Operation.prepare).mounted live)) := by
        refine Session.Sparing.follow (hprepared.imp fun ⟨hanswer, hafter⟩ => ?_) (.of_eq rfl rfl)
        have hmount := hR.change hafter (fun _ => some live) (·.stats)
          (fun i => i.generation + 1) (·.index)
        exact ⟨hanswer.symm.trans hmade, hR.log hmount _⟩
      -- The second source runs where the first one has been.
      have hsources := hR.trans (hR.isPrivate hst) hmounted fun v huv =>
        hR.trans (hR.isPrivate huv)
          (((hR.executed huv Check.source Check.label).and (hR.execute _ _ _ v huv)).imp
            fun ⟨hepisodes, _, hafter⟩ => And.intro hepisodes hafter)
          fun _ hchecked => hR.sandboxed hchecked
      rw [(openEngine_of_ok hopen hmade).1, Session.after_install]
      refine hsources.imp ?_
      rintro ⟨hother, hfirst, hlast⟩
      rw [hother]
      exact List.rel_append hfirst hlast

end Operation.Pairs

/-! ## Worlds side by side -/

/-- What the caller of an action sees of it. -/
inductive Reply where
  | opening (result : Except ScriptError Unit)
  | source (result : Except ScriptError Unit)
  | dispatch (result : Dispatched (Option Scalar))
  | text (result : Dispatched (Option Bytes))

namespace Action

variable {H H' : Type}

/-- An action for hosts of another type, none if it attaches or detaches one. -/
def hostless? : Action H → Option (Action H')
  | .attach _ | .detach => none
  | .openEngine => some .openEngine
  | .close => some .close
  | .reset => some .reset
  | .execute source label => some (.execute source label)
  | .probe site name => some (.probe site name)
  | .copy origin site => some (.copy origin site)
  | .dispatch site r counter => some (.dispatch site r counter)
  | .dispatchText site r text counter => some (.dispatchText site r text counter)

/-- Whether an action opens the engine. -/
def opens : Action H → Bool
  | .openEngine | .reset => true
  | _ => false

end Action

namespace World

variable {H H' : Type}

/-- Worlds with related sessions and the same tokens. -/
structure Paired (R : Session H → Session H' → Prop) (w : World H) (v : World H') : Prop where
  session : R w.session v.session
  tokens : w.tokens = v.tokens

variable [Host H] [Host H']

/-- What the caller sees of an action, none if it answers nothing about scripts. -/
def reply? (w : World H) : Action H → Option Reply
  | .openEngine => some (.opening (w.session.answer Operation.openEngine))
  | .reset => some (.opening (w.session.answer Operation.reset))
  | .execute source label => some (.source (w.session.answer (Operation.execute source label)))
  | .dispatch site r counter =>
    some (.dispatch (w.session.answer (Operation.dispatch (w.tokens site) r counter)))
  | .dispatchText site r text counter =>
    some (.text (w.session.answer (Operation.dispatchText (w.tokens site) r text counter)))
  | _ => none

/-- What the callers see of a run. -/
def replies (w : World H) (actions : List (Action H)) : List Reply :=
  (w.along reply? actions).reduceOption

/-- The reply to the first action comes first. -/
theorem replies_cons (w : World H) (a : Action H) (rest : List (Action H)) :
    w.replies (a :: rest) = (w.reply? a).toList ++ (w.after a).replies rest := by
  unfold replies
  rw [along]
  cases w.reply? a <;> rfl

variable {logs : List String} {R : Session H → Session H' → Prop} (hR : Operation.Pairs logs R)

include hR

/-- An action that moves no host gives the same reply in paired worlds, is the same episodes, and
leaves them paired, if the hosts register the same where it opens the engine; as long as the
requests in the first world leave the private files alone. -/
theorem Paired.after {w : World H} {v : World H'} (h : Paired R w v) {a : Action H}
    {b : Action H'} (hab : a.hostless? = some b)
    (hopens : a.opens = true → Operation.RegisterAlike R) :
    w.session.Sparing logs (w.after a).session
      (w.reply? a = v.reply? b ∧
        List.Forall₂ (Episode.Paired R) (w.episodes a) (v.episodes b) ∧
        Paired R (w.after a) (v.after b)) := by
  obtain ⟨s, tokens⟩ := w
  obtain ⟨t, tokens'⟩ := v
  obtain ⟨hst, hsame⟩ := h
  cases hsame
  have hsettled : ∀ {site : Nat} {token token' : Token}, token = token' →
      Function.update tokens site token = Function.update tokens site token' := by
    intro site token token' htoken
    rw [htoken]
  cases a with
  | attach d => cases hab
  | detach => cases hab
  | openEngine =>
    cases hab
    refine ((hR.openEngine (hopens rfl) s t hst).and (hR.opened hst (hopens rfl))).imp ?_
    rintro ⟨⟨hanswer, hafter⟩, hepisodes⟩
    exact ⟨congrArg (some ∘ Reply.opening) hanswer, hepisodes, hafter, rfl⟩
  | reset =>
    cases hab
    have hopened := hR.trans (hR.isPrivate hst) (hR.close s t hst)
      fun _ hclosed => hR.opened hclosed (hopens rfl)
    refine ((hR.reset (hopens rfl) s t hst).and hopened).imp ?_
    rintro ⟨⟨hanswer, hafter⟩, -, hepisodes⟩
    exact ⟨congrArg (some ∘ Reply.opening) hanswer, hepisodes, hafter, rfl⟩
  | close =>
    cases hab
    exact (hR.close s t hst).imp fun ⟨_, hafter⟩ => ⟨rfl, .nil, hafter, rfl⟩
  | copy origin site =>
    cases hab
    exact .of_asks_nil (.of_eq rfl rfl) ⟨rfl, .nil, hst, rfl⟩
  | probe site name =>
    cases hab
    refine (hR.resolveToken name s t hst).imp fun ⟨htoken, hafter⟩ => ?_
    exact ⟨rfl, .nil, hafter, hsettled htoken⟩
  | execute source label =>
    cases hab
    refine ((hR.execute source label s t hst).and (hR.executed hst source label)).imp ?_
    rintro ⟨⟨hanswer, hafter⟩, hepisodes⟩
    exact ⟨congrArg (some ∘ Reply.source) hanswer, hepisodes, hafter, rfl⟩
  | dispatch site r counter =>
    cases hab
    refine ((hR.dispatch (tokens site) r counter s t hst).and
      (hR.called hst (tokens site) r r.arguments counter)).imp ?_
    rintro ⟨⟨hanswer, hafter⟩, hepisodes⟩
    exact ⟨congrArg (some ∘ Reply.dispatch) hanswer, hepisodes, hafter,
      hsettled (congrArg Dispatched.token hanswer)⟩
  | dispatchText site r text counter =>
    cases hab
    refine ((hR.dispatchText (tokens site) r text counter s t hst).and
      (hR.called hst (tokens site) r (pure (textArguments text)) counter)).imp ?_
    rintro ⟨⟨hanswer, hafter⟩, hepisodes⟩
    exact ⟨congrArg (some ∘ Reply.text) hanswer, hepisodes, hafter,
      hsettled (congrArg Dispatched.token hanswer)⟩

/-- A run goes on from paired worlds as it would from any other world beside the first one. -/
theorem Paired.trans {s x : Session H} {w : World H} {v : World H'} {P : Prop}
    {Q : World H' → Prop} (hs : s.logPath ∈ logs) (h : s.Sparing logs w.session (P ∧ Paired R w v))
    (hrest : ∀ v, Paired R w v → w.session.Sparing logs x (Q v)) : s.Sparing logs x (P ∧ Q v) := by
  have hsplit := h.imp fun ⟨hP, hpaired⟩ =>
    And.intro (And.intro hP hpaired.tokens) hpaired.session
  refine (hR.trans hs hsplit fun u hu => hrest ⟨u, w.tokens⟩ ⟨hu, rfl⟩).imp ?_
  rintro ⟨⟨hP, htokens⟩, hQ⟩
  rw [htokens] at hQ
  exact ⟨hP, hQ⟩

end World

end EventScripts
