import Mathlib.Logic.Function.Basic
import EventScripts.Proofs.OperationFrames

/-!
# Runs of an engine

A world is a session together with the tokens of all dispatch sites that use its engine. A run is
any sequence of actions on it: opening, closing, resetting, attaching and detaching a host, running
a source, giving a site a token by probing a name or by copying the token of another site, and the
two kinds of dispatch. Scripts, requests and hosts are arbitrary.

An action makes a machine when it opens a closed engine and succeeds, directly or as the second
half of a reset. Such an action begins the next generation. Every other action leaves what stands
of the engine alone, but for taking the machine away.
-/

set_option autoImplicit false

namespace EventScripts

open Script

/-- What is done to an engine and to the tokens of its sites. -/
inductive Action (H : Type) where
  | openEngine
  | close
  | reset
  | attach (h : H)
  | detach
  | execute (source : List Step) (label : String)
  /-- A site gets the token that a probe of a name gives. -/
  | probe (site : Nat) (name : String)
  /-- A site gets a copy of the token of another site. -/
  | copy (origin site : Nat)
  | dispatch (site : Nat) (r : Request) (counter : Nat)
  | dispatchText (site : Nat) (r : Request) (text : Bytes) (counter : Nat)

/-- What a dispatch asks for, of either kind. -/
structure SiteCall where
  site : Nat
  request : Request
  arguments : Machine (List Value)
  counter : Nat

namespace Action

variable {H : Type}

/-- The call that a dispatch asks for. -/
def call? : Action H → Option SiteCall
  | .dispatch site r counter => some ⟨site, r, r.arguments, counter⟩
  | .dispatchText site r text counter => some ⟨site, r, pure (textArguments text), counter⟩
  | _ => none

/-- Whether a site is given another token. -/
def renews (site : Nat) : Action H → Bool
  | .probe target _ => target == site
  | .copy _ target => target == site
  | _ => false

end Action

/-- A session with the tokens of the sites that use its engine. -/
structure World (H : Type := Document) where
  session : Session H
  tokens : Nat → Token

namespace World

variable {H α : Type}

/-- An engine that has never been used, and sites with new tokens. -/
def New (w : World H) : Prop :=
  (∃ settings selection presenter date,
    w.session.engine = .new settings selection presenter date) ∧
  ∀ site, w.tokens site = .fresh

/-- A new engine without a host, whose machines get none of the libraries. -/
def bare : World :=
  ⟨.new (.new ⟨none, "", "", true, false⟩ ⟨Library.all.map (·, .nothing), []⟩ .log "") none,
    fun _ => .fresh⟩

/-- The bare world is new. -/
theorem new_bare : bare.New :=
  ⟨⟨_, _, _, _, rfl⟩, fun _ => rfl⟩

/-- What stands of the engine. -/
def standing (w : World H) : Standing := w.session.engine.standing

/-- Whether the engine has a machine. -/
def isOpen (w : World H) : Bool := w.session.engine.isOpen

/-- The world after an operation on its session. -/
def on (w : World H) (op : OperationOn H α) : World H := { w with session := w.session.after op }

/-- The world with a token for a site. -/
def settle (w : World H) (site : Nat) (token : Token) : World H :=
  { w with tokens := Function.update w.tokens site token }

variable [Host H]

/-- The operation that is the call of a site. -/
def callOf (w : World H) (c : SiteCall) : OperationOn H (Dispatched (List Value)) :=
  Operation.callSite (w.tokens c.site) c.request c.arguments c.counter

/-- The world after an action. -/
def after (w : World H) : Action H → World H
  | .openEngine => w.on Operation.openEngine
  | .close => w.on Operation.close
  | .reset => w.on Operation.reset
  | .attach h => w.on (Operation.attach h)
  | .detach => w.on Operation.detach
  | .execute source label => w.on (Operation.execute source label)
  | .probe site name =>
    let op := Operation.resolveToken name
    (w.on op).settle site (w.session.answer op)
  | .copy origin site => w.settle site (w.tokens origin)
  | .dispatch site r counter =>
    let op := Operation.dispatch (w.tokens site) r counter
    (w.on op).settle site (w.session.answer op).token
  | .dispatchText site r text counter =>
    let op := Operation.dispatchText (w.tokens site) r text counter
    (w.on op).settle site (w.session.answer op).token

/-- What a dispatch answers, the results of the call aside. -/
def verdict (w : World H) : Action H → Option (Dispatched Unit)
  | .dispatch site r counter =>
    some ((w.session.answer (Operation.dispatch (w.tokens site) r counter)).map fun _ => ())
  | .dispatchText site r text counter =>
    some ((w.session.answer (Operation.dispatchText (w.tokens site) r text counter)).map
      fun _ => ())
  | _ => none

/-- Whether an action makes a machine. -/
def makesMachine (w : World H) : Action H → Bool
  | .openEngine => !w.isOpen && (w.session.answer Operation.openEngine).isOk
  | .reset => (w.session.answer Operation.reset).isOk
  | _ => false

/-- The world after a run. -/
def run (w : World H) (actions : List (Action H)) : World H := actions.foldl after w

/-- Whether some action of a run makes a machine. -/
def makesMachineIn (w : World H) : List (Action H) → Bool
  | [] => false
  | a :: rest => w.makesMachine a || (w.after a).makesMachineIn rest

/-- A run takes its first action first. -/
@[simp] theorem run_cons (w : World H) (a : Action H) (actions : List (Action H)) :
    w.run (a :: actions) = (w.after a).run actions := by
  rfl

/-- A run in two parts is one run after the other. -/
theorem run_append (w : World H) (first second : List (Action H)) :
    w.run (first ++ second) = (w.run first).run second := by
  unfold run
  rw [List.foldl_append]

/-! ## Both kinds of dispatch -/

/-- A dispatch of either kind does what the call of its site does. -/
theorem after_of_call {a : Action H} {c : SiteCall} (w : World H) (h : a.call? = some c) :
    w.after a = (w.on (w.callOf c)).settle c.site (w.session.answer (w.callOf c)).token := by
  cases a <;> cases h <;> rfl

/-- A dispatch of either kind answers what the call of its site answers. -/
theorem verdict_of_call {a : Action H} {c : SiteCall} (w : World H) (h : a.call? = some c) :
    w.verdict a = some ((w.session.answer (w.callOf c)).map fun _ => ()) := by
  have hmap : ∀ {β γ : Type} (f : β → γ) (d : Dispatched β),
      (d.map f).map (fun _ => ()) = d.map fun _ => () := by
    intro β γ f d
    obtain ⟨token, count, _ | _ | _⟩ := d <;> rfl
  cases a with
  | dispatch site r counter =>
    cases h
    exact congrArg some (hmap _ _)
  | dispatchText site r text counter =>
    cases h
    exact congrArg some (hmap _ _)
  | _ => cases h

/-! ## What stands of the engine -/

omit [Host H] in
/-- The standing after an operation that keeps the footing. -/
theorem standing_on {op : OperationOn H α} (w : World H)
    (h : Operation.Keeps Session.footing op) : (w.on op).standing = w.standing :=
  congrArg Footing.standing (h w.session)

omit [Host H] in
/-- A closed engine stands as before, without functions for protected calls. -/
theorem standing_close (w : World H) :
    (w.on Operation.close).standing = { w.standing with invoker := none } := by
  unfold standing on
  rw [Operation.engine_close]
  rfl

/-- An action that makes a machine begins the next generation. -/
theorem standing_after_of_makes {w : World H} {a : Action H} (h : w.makesMachine a = true) :
    ∃ invoker, (w.after a).standing =
      { w.standing with generation := w.standing.generation + 1, invoker := some invoker } := by
  cases a with
  | openEngine =>
    simp only [makesMachine, Bool.and_eq_true, Bool.not_eq_true'] at h
    rcases Operation.standing_openEngine h.1 with ⟨-, hmade⟩ | ⟨hfailed, -⟩
    · exact hmade
    · rw [hfailed] at h
      cases h.2
  | reset =>
    have hclosed : (w.on Operation.close).isOpen = false := by
      rw [isOpen, Engine.isOpen_eq_standing]
      exact congrArg (fun s => Option.isSome s.invoker) (standing_close w)
    have hanswer : ((w.on Operation.close).session.answer Operation.openEngine).isOk = true := h
    rcases Operation.standing_openEngine hclosed with ⟨-, invoker, hmade⟩ | ⟨hfailed, -⟩
    · refine ⟨invoker, hmade.trans ?_⟩
      have hstanding := standing_close w
      unfold standing at hstanding
      rw [hstanding]
      exact congrArg (fun n => { w.standing with generation := n + 1, invoker := some invoker })
        (congrArg Standing.generation hstanding)
    · rw [hfailed] at hanswer
      cases hanswer
  | _ => cases h

/-- An action that makes no machine changes nothing of what stands, unless it takes the machine
away. -/
theorem standing_after_of_makesNone {w : World H} {a : Action H} (h : w.makesMachine a = false) :
    (w.after a).standing = w.standing ∨
    (w.after a).standing = { w.standing with invoker := none } := by
  cases a with
  | openEngine =>
    by_cases hopen : w.isOpen = true
    · have hsame := (Operation.openEngine_of_open hopen).1
      exact .inl (congrArg (fun s => s.engine.standing) hsame)
    · rw [Bool.not_eq_true] at hopen
      simp only [makesMachine, hopen, Bool.not_false, Bool.true_and] at h
      rcases Operation.standing_openEngine hopen with ⟨hok, -⟩ | ⟨-, hsame⟩
      · rw [hok] at h
        cases h
      · exact .inl (congrArg Engine.standing hsame)
  | close => exact .inr (standing_close w)
  | reset =>
    have hclosed : (w.on Operation.close).isOpen = false := by
      rw [isOpen, Engine.isOpen_eq_standing]
      exact congrArg (fun s => Option.isSome s.invoker) (standing_close w)
    have hanswer : ((w.on Operation.close).session.answer Operation.openEngine).isOk = false := h
    rcases Operation.standing_openEngine hclosed with ⟨hok, -⟩ | ⟨-, hsame⟩
    · rw [hok] at hanswer
      cases hanswer
    · exact .inr ((congrArg Engine.standing hsame).trans (standing_close w))
  | attach d => exact .inl rfl
  | detach => exact .inl rfl
  | execute source label =>
    exact .inl (standing_on w (Operation.keeps_footing_execute source label))
  | probe site name => exact .inl (standing_on w (Operation.inner_footing.resolveToken name))
  | copy origin site => exact .inl rfl
  | dispatch site r counter =>
    rw [after_of_call w rfl]
    exact .inl (standing_on w (Operation.keeps_footing_callSite _ _ _ _))
  | dispatchText site r text counter =>
    rw [after_of_call w rfl]
    exact .inl (standing_on w (Operation.keeps_footing_callSite _ _ _ _))

/-- Along a run that makes no machine nothing of what stands changes, unless the machine is taken
away. -/
theorem standing_run_of_makesNone {w : World H} {actions : List (Action H)}
    (h : w.makesMachineIn actions = false) :
    (w.run actions).standing = w.standing ∨
    (w.run actions).standing = { w.standing with invoker := none } := by
  induction actions generalizing w with
  | nil => exact .inl rfl
  | cons a rest ih =>
    simp only [makesMachineIn, Bool.or_eq_false_iff] at h
    rw [run_cons]
    rcases standing_after_of_makesNone h.1 with hstep | hstep <;>
      rcases ih h.2 with hrest | hrest <;> rw [hrest, hstep]
    · exact .inl rfl
    · exact .inr rfl
    · exact .inr rfl
    · exact .inr rfl

/-- An action changes nothing of what stands but the generation and the functions for protected
calls. -/
theorem standing_after (w : World H) (a : Action H) :
    ∃ generation invoker,
      (w.after a).standing = { w.standing with generation := generation, invoker := invoker } := by
  cases h : w.makesMachine a with
  | true =>
    obtain ⟨invoker, hmade⟩ := standing_after_of_makes h
    exact ⟨_, _, hmade⟩
  | false =>
    rcases standing_after_of_makesNone h with hkept | hclosed
    · exact ⟨_, _, hkept⟩
    · exact ⟨_, _, hclosed⟩

/-- So does a run. -/
theorem standing_run (w : World H) (actions : List (Action H)) :
    ∃ generation invoker,
      (w.run actions).standing =
        { w.standing with generation := generation, invoker := invoker } := by
  induction actions generalizing w with
  | nil => exact ⟨_, _, rfl⟩
  | cons a rest ih =>
    obtain ⟨_, _, hstep⟩ := standing_after w a
    obtain ⟨generation, invoker, hrest⟩ := ih (w.after a)
    refine ⟨generation, invoker, ?_⟩
    rw [run_cons, hrest, hstep]

/-- An action that makes no machine leaves the engine in its generation. -/
theorem generation_after_of_makesNone {w : World H} {a : Action H}
    (h : w.makesMachine a = false) :
    (w.after a).standing.generation = w.standing.generation := by
  rcases standing_after_of_makesNone h with hkept | hclosed
  · rw [hkept]
  · rw [hclosed]

/-- No action takes the engine back to an earlier generation. -/
theorem generation_le_after (w : World H) (a : Action H) :
    w.standing.generation ≤ (w.after a).standing.generation := by
  cases h : w.makesMachine a with
  | true =>
    obtain ⟨invoker, hmade⟩ := standing_after_of_makes h
    rw [hmade]
    exact Nat.le_succ _
  | false => exact Nat.le_of_eq (generation_after_of_makesNone h).symm

/-- No run takes the engine back to an earlier generation. -/
theorem generation_le_run (w : World H) (actions : List (Action H)) :
    w.standing.generation ≤ (w.run actions).standing.generation := by
  induction actions generalizing w with
  | nil => exact Nat.le_refl _
  | cons a rest ih => exact Nat.le_trans (generation_le_after w a) (ih (w.after a))

/-- A run that makes a machine takes the engine to a later generation. -/
theorem generation_lt_run {w : World H} {actions : List (Action H)}
    (h : w.makesMachineIn actions = true) :
    w.standing.generation < (w.run actions).standing.generation := by
  induction actions generalizing w with
  | nil => cases h
  | cons a rest ih =>
    rcases Bool.or_eq_true_iff.mp h with hmade | hlater
    · obtain ⟨invoker, hstanding⟩ := standing_after_of_makes hmade
      have hstep : w.standing.generation < (w.after a).standing.generation := by
        rw [hstanding]
        exact Nat.lt_succ_self _
      exact Nat.lt_of_lt_of_le hstep (generation_le_run (w.after a) rest)
    · exact Nat.lt_of_le_of_lt (generation_le_after w a) (ih hlater)

/-- A closed engine stays closed along a run that makes no machine. -/
theorem isOpen_run_of_makesNone {w : World H} {actions : List (Action H)}
    (hclosed : w.isOpen = false) (h : w.makesMachineIn actions = false) :
    (w.run actions).isOpen = false := by
  unfold isOpen at hclosed ⊢
  rw [Engine.isOpen_eq_standing] at hclosed ⊢
  rcases standing_run_of_makesNone h with hsame | haway
  · exact (congrArg (fun s => Option.isSome s.invoker) hsame).trans hclosed
  · exact congrArg (fun s => Option.isSome s.invoker) haway

end World

end EventScripts
