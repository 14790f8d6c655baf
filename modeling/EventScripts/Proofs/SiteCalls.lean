import EventScripts.Proofs.Lookups
import EventScripts.Proofs.OperationFrames

/-!
# The ways of a dispatch

A dispatch goes one of three ways: the engine is closed, the token is broken, or the function that
the request names is looked up and called in a scope. In the last case the run in the scope decides
alone what becomes of the token, of the invocation counter and of the answer.
-/

set_option autoImplicit false

namespace EventScripts

open Script

namespace Operation

variable {H : Type} [Host H] {s : Session H} {live : Live} (token : Token) (r : Request)
  (arguments : Machine (List Value)) (counter : Nat)

/-- The run of a dispatch in its scope, and what it came to. -/
def scopedRun (live : Live) (r : Request) (arguments : Machine (List Value)) :
    OperationOn H SiteRun := do
  traceDispatch r
  inScope (runSite live r arguments)

/-- A dispatch on a closed engine does nothing. -/
theorem callSite_of_closed (h : s.engine.live = none) :
    s.after (callSite token r arguments counter) = s ∧
    s.answer (callSite token r arguments counter) = ⟨token, counter, .ok .skipped⟩ := by
  unfold callSite
  simp only [Session.after_bind, Session.answer_bind, Session.after_get, Session.answer_get, h]
  exact ⟨rfl, rfl⟩

/-- A dispatch on a broken token is counted, and does nothing else. -/
theorem callSite_of_broken {token : Token} (h : s.engine.live = some live)
    (hb : (token.sync s.engine.generation).isBroken = true) :
    s.after (callSite token r arguments counter) =
      s.after (count fun c => { c with skipped := c.skipped + 1 }) ∧
    s.answer (callSite token r arguments counter) =
      ⟨token.sync s.engine.generation, counter, .ok .skipped⟩ := by
  unfold callSite
  simp only [Session.after_bind, Session.answer_bind, Session.after_get, Session.answer_get, h,
    hb, if_true]
  exact ⟨rfl, rfl⟩

/-- A dispatch on a token that is not broken runs in a scope and concludes from that run. -/
theorem callSite_of_open {token : Token} (h : s.engine.live = some live)
    (hb : (token.sync s.engine.generation).isBroken = false) :
    s.after (callSite token r arguments counter) =
      (s.after (scopedRun live r arguments)).after
        (concludeSite (token.sync s.engine.generation) r counter
          (s.answer (scopedRun live r arguments))) ∧
    s.answer (callSite token r arguments counter) =
      (s.after (scopedRun live r arguments)).answer
        (concludeSite (token.sync s.engine.generation) r counter
          (s.answer (scopedRun live r arguments))) := by
  unfold callSite scopedRun
  constructor <;>
    simp only [Session.after_bind, Session.answer_bind, Session.after_get, Session.answer_get, h,
      hb, Bool.false_eq_true, if_false]

/-- What a dispatch answers after its run. -/
def SiteRun.dispatched (token : Token) (r : Request) (counter : Nat) :
    SiteRun → Dispatched (List Value)
  | .notFound => ⟨token.markBroken, counter, .error (.resolution r.procedure)⟩
  | .failed message =>
    ⟨token.markResolved.markBroken, counter, .error (.runtime r.procedure message)⟩
  | .returned results => ⟨token.markResolved, counter + 1, .ok (.invoked results)⟩

/-- The answer of a dispatch is read off its run. -/
theorem answer_concludeSite (s : Session H) (token : Token) (r : Request) (counter : Nat)
    (run : SiteRun) :
    s.answer (concludeSite token r counter run) = run.dispatched token r counter := by
  cases run <;> rfl

/-- A dispatch answers with values exactly if the function returned them. -/
theorem SiteRun.dispatched_invoked_iff {token : Token} {r : Request} {counter : Nat}
    {run : SiteRun} {values : List Value} :
    (run.dispatched token r counter).answer = .ok (.invoked values) ↔ run = .returned values := by
  cases run <;> simp [SiteRun.dispatched]

/-- A reading of results shows in the answer what it reads of a call that was made, -/
theorem answer_map_invoked_iff {α β : Type} (read : α → β) (d : Dispatched α) (b : β) :
    (d.map read).answer = .ok (.invoked b) ↔ ∃ a, d.answer = .ok (.invoked a) ∧ read a = b := by
  obtain ⟨token, count, _ | _ | _⟩ := d <;> simp [Dispatched.map, Except.map]

/-- and leaves failures as they are. -/
theorem answer_map_error_iff {α β : Type} (read : α → β) (d : Dispatched α) (e : ScriptError) :
    (d.map read).answer = .error e ↔ d.answer = .error e := by
  obtain ⟨token, count, _ | _ | _⟩ := d <;> simp [Dispatched.map, Except.map]

/-- What the host is told of a run: an error that escapes the call itself is described. -/
def answerOf : Except Value (Except String (List Value)) → Except String (List Value)
  | .ok answer => answer
  | .error e => .error (describeError (some e))

/-- A protected call answers what its run on the machine comes to. -/
theorem answer_runProtected_eq (s : Session H) (live : Live)
    (m : Machine (Except String (List Value))) :
    s.answer (runProtected live m) =
      answerOf (Machine.run m (live.vm.among s.around.files)).1 := by
  unfold runProtected
  rw [Session.answer_bind, Session.answer_bind, Session.answer_runOn]
  cases (Machine.run m (live.vm.among s.around.files)).1 <;> rfl

/-- What the run of a dispatch comes to, read off the machine and the files alone. -/
def siteRun (live : Live) (files : FileTree) (r : Request) (arguments : Machine (List Value)) :
    SiteRun :=
  match Machine.run (lookupFunction r.procedure) (live.vm.among files) with
  | (.ok (some f), vm) =>
    .ofCall (answerOf (Machine.run (do live.invoker.call f (← arguments)) (vm.among vm.files)).1)
  | _ => .notFound

/-- A lookup answers the function, and the machine that it leaves. -/
theorem answer_findFunction {name : String} {f : Option Function} {vm : Vm} {s : Session H}
    (h : Machine.run (lookupFunction name) (live.vm.among s.around.files) = (.ok f, vm)) :
    s.answer (findFunction live name) = (f, { live with vm := vm.settled }) := by
  unfold findFunction
  rw [Session.answer_bind, Session.answer_runOn, h]
  rfl

/-- After a function has been looked up, the files are those that the lookup left. -/
theorem files_findFunction {name : String} {f : Option Function} {vm : Vm} {s : Session H}
    (h : Machine.run (lookupFunction name) (live.vm.among s.around.files) = (.ok f, vm)) :
    (s.after (findFunction live name)).around.files = vm.files := by
  unfold findFunction
  rw [Session.after_bind, Session.after_runOn, h]
  rfl

/-- A run comes to what the machine of the engine says, and the files around it. -/
theorem answer_runSite (s : Session H) (live : Live) (r : Request)
    (arguments : Machine (List Value)) :
    s.answer (runSite live r arguments) = siteRun live s.around.files r arguments := by
  obtain ⟨f, vm, hlookup⟩ := run_lookupFunction r.procedure (live.vm.among s.around.files)
  unfold runSite siteRun
  rw [Session.answer_bind, answer_findFunction hlookup, hlookup]
  cases f with
  | none => rfl
  | some f =>
    have hfiles : ((s.after (findFunction live r.procedure)).around.setOrigin r.source).files =
        vm.files := by
      rw [Surroundings.files_setOrigin, files_findFunction hlookup]
    simp only [Session.answer_bind, Session.answer_map, callFunction, answer_runProtected_eq,
      Session.after_onAround, count, Session.after_onEngine, hfiles]
    rfl

/-- The trace and the scope make no difference to what a dispatch comes to. -/
theorem answer_scopedRun (s : Session H) (live : Live) (r : Request)
    (arguments : Machine (List Value)) :
    s.answer (scopedRun live r arguments) = siteRun live s.around.files r arguments := by
  have hfiles : (s.after (traceDispatch r)).entered.around.files = s.around.files :=
    files_traceDispatch s r
  unfold scopedRun
  rw [Session.answer_bind, Session.answer_inScope, answer_runSite, hfiles]

/-- In a machine among files the name of a request leads to a function, and the arguments for it are
made, which leaves another machine. -/
def Meets (live : Live) (files : FileTree) (r : Request) (arguments : Machine (List Value))
    (f : Function) (args : List Value) (vm : Vm) : Prop :=
  ∃ found,
    Machine.run (lookupFunction r.procedure) (live.vm.among files) = (.ok (some f), found) ∧
    Machine.run arguments (found.among found.files) = (.ok args, vm)

/-- If a function is met with arguments, the run comes to what the call does. -/
theorem siteRun_of_meets {files : FileTree} {r : Request} {arguments : Machine (List Value)}
    {f : Function} {args : List Value} {vm : Vm} (h : Meets live files r arguments f args vm) :
    siteRun live files r arguments =
      .ofCall (answerOf (Machine.run (live.invoker.call f args) vm).1) := by
  obtain ⟨found, hfound, harguments⟩ := h
  unfold siteRun
  rw [hfound]
  dsimp only
  rw [Machine.run_bind_of_ok harguments]

/-- Values are returned only by a call that gives them. -/
theorem ofCall_answerOf_eq_returned {result : Except Value (Except String (List Value))}
    {values : List Value} (h : SiteRun.ofCall (answerOf result) = .returned values) :
    result = .ok (.ok values) := by
  obtain e | message | results := result
  · cases h
  · cases h
  · cases h
    rfl

/-- A run returns values exactly if a function is met with arguments and the call gives them. -/
theorem siteRun_returned_iff (live : Live) (files : FileTree) (r : Request)
    (arguments : Machine (List Value)) (values : List Value) :
    siteRun live files r arguments = .returned values ↔
      ∃ f args vm vm', Meets live files r arguments f args vm ∧
        Machine.run (live.invoker.call f args) vm = (.ok (.ok values), vm') := by
  constructor
  · intro hrun
    obtain ⟨f, found, hfound⟩ := run_lookupFunction r.procedure (live.vm.among files)
    cases f with
    | none =>
      unfold siteRun at hrun
      rw [hfound] at hrun
      cases hrun
    | some f =>
      rcases hmade : Machine.run arguments (found.among found.files) with ⟨e | args, vm⟩
      · -- Arguments that could not be made would have failed the run.
        unfold siteRun at hrun
        rw [hfound] at hrun
        dsimp only at hrun
        rw [Machine.run_bind, hmade] at hrun
        cases hrun
      · have hmeets : Meets live files r arguments f args vm := ⟨found, hfound, hmade⟩
        rw [siteRun_of_meets hmeets] at hrun
        exact ⟨f, args, vm, _, hmeets, Prod.ext (ofCall_answerOf_eq_returned hrun) rfl⟩
  · rintro ⟨f, args, vm, vm', hmeets, hcall⟩
    rw [siteRun_of_meets hmeets, hcall]
    rfl

/-- No function is found exactly if the lookup gives none. -/
theorem siteRun_notFound_iff (live : Live) (files : FileTree) (r : Request)
    (arguments : Machine (List Value)) :
    siteRun live files r arguments = .notFound ↔
      (Machine.run (lookupFunction r.procedure) (live.vm.among files)).1 = .ok none := by
  obtain ⟨f, vm, hlookup⟩ := run_lookupFunction r.procedure (live.vm.among files)
  unfold siteRun
  rw [hlookup]
  cases f with
  | none => exact ⟨fun _ => rfl, fun _ => rfl⟩
  | some f =>
    refine iff_of_false ?_ nofun
    dsimp only
    cases answerOf (Machine.run (do live.invoker.call f (← arguments))
      (vm.among vm.files)).1 <;> nofun

/-- The scoped run of a dispatch finds no function exactly when the lookup of the name gives
none. -/
theorem scopedRun_notFound_iff (s : Session H) (live : Live) (r : Request)
    (arguments : Machine (List Value)) :
    s.answer (scopedRun live r arguments) = .notFound ↔
      (Machine.run (lookupFunction r.procedure) (live.vm.among s.around.files)).1 = .ok none := by
  rw [answer_scopedRun, siteRun_notFound_iff]

end Operation

end EventScripts
