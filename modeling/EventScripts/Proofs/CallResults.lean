import EventScripts.Proofs.ProtectedCalls
import EventScripts.Proofs.SiteCalls

/-!
# How the result of a call is read

A dispatch that calls its function tells what the function returned: all results if they are asked
for as they are, the first one if it is read as a truth value, a number or a text. Whether the
result is asked for is not known to anything that runs before the call has ended, so it makes no
difference to what the dispatch does.

Calls go through the functions for protected calls that were taken when the machine was opened. If
these are the machine's own, what a call gives are the results of the function itself.
-/

set_option autoImplicit false

namespace EventScripts

open Script

/-! ## Requests for the same call -/

/-- Two requests ask for the same call, with whatever arguments and whether or not the result is
asked for. -/
structure Request.SameCall (r q : Request) : Prop where
  procedure : q.procedure = r.procedure
  source : q.source = r.source
  kind : q.kind = r.kind
  reason : q.reason = r.reason

/-- A request with or without the wish for its result. -/
theorem Request.sameCall_wantResult (r : Request) (b : Bool) :
    r.SameCall { r with wantResult := b } :=
  ⟨rfl, rfl, rfl, rfl⟩

namespace Operation

variable {H : Type} [Host H] {s : Session H} {token : Token} {r : Request}
  {arguments : Machine (List Value)} {f : Function} {args values : List Value}

/-- Nothing else of a request counts for a call than what call it asks for. -/
theorem callSite_congr {q : Request} (h : r.SameCall q) (token : Token)
    (arguments : Machine (List Value)) (counter : Nat) :
    callSite (H := H) token q arguments counter = callSite token r arguments counter := by
  cases r
  cases q
  obtain ⟨hprocedure, hsource, hkind, hreason⟩ := h
  cases hprocedure
  cases hsource
  cases hkind
  cases hreason
  rfl

/-! ## Calls that are made -/

/-- A dispatch calls a function with arguments, in a machine. -/
structure Reaches (s : Session H) (token : Token) (r : Request) (arguments : Machine (List Value))
    (live : Live) (f : Function) (args : List Value) (vm : Vm) : Prop where
  opened : s.engine.live = some live
  unbroken : (token.sync s.engine.generation).isBroken = false
  meets : Meets live s.around.files r arguments f args vm

/-- A dispatch calls a function with arguments, and the call gives values. -/
def Gives (s : Session H) (token : Token) (r : Request) (arguments : Machine (List Value))
    (f : Function) (args values : List Value) : Prop :=
  ∃ live vm vm', Reaches s token r arguments live f args vm ∧
    Machine.run (live.invoker.call f args) vm = (.ok (.ok values), vm')

/-- A dispatch calls a function with arguments, and the function itself returns values. -/
def Returns (s : Session H) (token : Token) (r : Request) (arguments : Machine (List Value))
    (f : Function) (args values : List Value) : Prop :=
  ∃ live vm vm', Reaches s token r arguments live f args vm ∧
    Machine.run (protectedRun f args) (Invoker.begun vm) = (.ok values, vm')

/-- The functions for protected calls are those of the machine. -/
def OwnInvoker (s : Session H) : Prop :=
  ∀ live, s.engine.live = some live → live.invoker.Genuine

omit [Host H] in
/-- With the machine's own functions for protected calls, a call gives what the function returns. -/
theorem gives_iff_returns (h : OwnInvoker s) :
    Gives s token r arguments f args values ↔ Returns s token r arguments f args values := by
  constructor
  · rintro ⟨live, vm, vm', hreaches, hcall⟩
    have hgenuine := h live hreaches.opened
    exact ⟨live, vm, vm', hreaches, (Invoker.call_ok_iff hgenuine f args values vm vm').mp hcall⟩
  · rintro ⟨live, vm, vm', hreaches, hrun⟩
    have hgenuine := h live hreaches.opened
    exact ⟨live, vm, vm', hreaches, (Invoker.call_ok_iff hgenuine f args values vm vm').mpr hrun⟩

/-- A dispatch that calls a function answers what the call tells. -/
theorem Reaches.answer {live : Live} {vm : Vm} (h : Reaches s token r arguments live f args vm)
    (counter : Nat) :
    s.answer (callSite token r arguments counter) =
      (SiteRun.ofCall (answerOf (Machine.run (live.invoker.call f args) vm).1)).dispatched
        (token.sync s.engine.generation) r counter := by
  rw [(callSite_of_open r arguments counter h.opened h.unbroken).2, answer_concludeSite,
    answer_scopedRun, siteRun_of_meets h.meets]

/-- A dispatch gives values exactly if it calls a function and the call gives them. -/
theorem answer_callSite_invoked_iff (s : Session H) (token : Token) (r : Request)
    (arguments : Machine (List Value)) (counter : Nat) (values : List Value) :
    (s.answer (callSite token r arguments counter)).answer = .ok (.invoked values) ↔
      ∃ f args, Gives s token r arguments f args values := by
  constructor
  · intro hanswer
    cases hlive : s.engine.live with
    | none =>
      rw [(callSite_of_closed token r arguments counter hlive).2] at hanswer
      cases hanswer
    | some live =>
      cases hb : (token.sync s.engine.generation).isBroken with
      | true =>
        rw [(callSite_of_broken r arguments counter hlive hb).2] at hanswer
        cases hanswer
      | false =>
        rw [(callSite_of_open r arguments counter hlive hb).2, answer_concludeSite,
          answer_scopedRun, SiteRun.dispatched_invoked_iff, siteRun_returned_iff] at hanswer
        obtain ⟨f, args, vm, vm', hmeets, hcall⟩ := hanswer
        exact ⟨f, args, live, vm, vm', ⟨hlive, hb, hmeets⟩, hcall⟩
  · rintro ⟨f, args, live, vm, vm', hreaches, hcall⟩
    rw [hreaches.answer, hcall]
    rfl

end Operation

/-! ## Truth values and numbers -/

namespace Scalar

/-- What the results of a call count as. Only the first one is read: a truth value as it is, a
number or a numeral as a number, and what is neither as zero. -/
inductive Reads : List Value → Scalar → Prop where
  | nothing : Reads [] (.boolean true)
  | boolean (b : Bool) (rest : List Value) : Reads (.boolean b :: rest) (.boolean b)
  | number (n : Number) (rest : List Value) : Reads (.number n :: rest) (.number n.toDouble)
  | numeral {s : Bytes} {n : Number} (rest : List Value) :
      Number.read? s = some n → Reads (.string s :: rest) (.number n.toDouble)
  | noNumeral {s : Bytes} (rest : List Value) :
      Number.read? s = none → Reads (.string s :: rest) (.number 0)
  | other {v : Value} (rest : List Value) :
      v.typeName ∈ ["nil", "table", "function", "thread", "userdata"] →
      Reads (v :: rest) (.number 0)

/-- The scalar of results reads them as it should. -/
theorem reads_ofResults (values : List Value) : Reads values (ofResults values) := by
  cases values with
  | nil => exact .nothing
  | cons v rest =>
    cases v with
    | boolean b => exact .boolean b rest
    | number n => exact .number n rest
    | string s =>
      cases hread : Number.read? s with
      | none =>
        have hzero : ofResults (.string s :: rest) = .number 0 := by
          simp [ofResults, Value.number?, hread]
        rw [hzero]
        exact .noNumeral rest hread
      | some n =>
        have hnumber : ofResults (.string s :: rest) = .number n.toDouble := by
          simp [ofResults, Value.number?, hread]
        rw [hnumber]
        exact .numeral rest hread
    | nil | table | function | thread | object | fault =>
      exact .other rest (by simp [Value.typeName])

/-- Results count as what is read of them, and as nothing else. -/
theorem reads_iff (values : List Value) (scalar : Scalar) :
    Reads values scalar ↔ scalar = ofResults values := by
  constructor
  · intro h
    cases h with
    | nothing => rfl
    | boolean b rest => rfl
    | number n rest => rfl
    | numeral rest hread => simp [ofResults, Value.number?, hread]
    | noNumeral rest hread => simp [ofResults, Value.number?, hread]
    | @other v rest hkind =>
      cases v with
      | boolean | number | string => simp [Value.typeName] at hkind
      | nil | table | function | thread | object | fault => rfl
  · rintro rfl
    exact reads_ofResults values

/-- Only a first result that is `false` counts as a failure: neither zero nor nil does. -/
theorem Reads.isTruthy_eq_false_iff {values : List Value} {scalar : Scalar}
    (h : Reads values scalar) :
    scalar.isTruthy = false ↔ ∃ rest, values = .boolean false :: rest := by
  cases h with
  | boolean b rest => cases b <;> simp [isTruthy]
  | nothing => simp [isTruthy]
  | number n rest => simp [isTruthy]
  | numeral rest hread => simp [isTruthy]
  | noNumeral rest hread => simp [isTruthy]
  | @other v rest hkind =>
    have hno : v ≠ .boolean false := by
      rintro rfl
      exact absurd hkind (by decide)
    simp [isTruthy, hno]

end Scalar

namespace Operation

variable {H : Type} [Host H]

/-- Scalar results tell the first result of the function by the host's truth convention. A dispatch
that asks for the result is invoked exactly if it calls a function that gives values, and then
answers what these count as. They are the values that the function itself returned, if the functions
for protected calls are the machine's own. Only a first result `false` is a failure, and no later
result counts. Not to ask for the result changes nothing but that there is none: the failure or the
success, the token, the counter and all that is left are the same. -/
theorem scalars_tell_the_first_result (s : Session H) (token : Token) (r : Request)
    (counter : Nat) :
    let asking := dispatch (H := H) token { r with wantResult := true } counter
    let notAsking := dispatch (H := H) token { r with wantResult := false } counter
    (∀ result, (s.answer asking).answer = .ok (.invoked result) ↔
      ∃ f args values scalar, Gives s token r r.arguments f args values ∧
        Scalar.Reads values scalar ∧ result = some scalar) ∧
    (OwnInvoker s → ∀ f args values, Gives s token r r.arguments f args values ↔
      Returns s token r r.arguments f args values) ∧
    (∀ values scalar, Scalar.Reads values scalar →
      (scalar.isTruthy = false ↔ ∃ rest, values = .boolean false :: rest)) ∧
    (∀ first rest others scalar, Scalar.Reads (first :: rest) scalar →
      Scalar.Reads (first :: others) scalar) ∧
    s.answer notAsking = (s.answer asking).map (fun _ => none) ∧
    s.after notAsking = s.after asking := by
  intro asking notAsking
  have hasking : asking = Dispatched.map (fun values => some (Scalar.ofResults values)) <$>
      callSite token r r.arguments counter :=
    congrArg (Dispatched.map (fun values => some (Scalar.ofResults values)) <$> ·)
      (callSite_congr (r.sameCall_wantResult true) token r.arguments counter)
  have hnotAsking : notAsking = Dispatched.map (fun _ => none) <$>
      callSite token r r.arguments counter :=
    congrArg (Dispatched.map (fun _ => none) <$> ·)
      (callSite_congr (r.sameCall_wantResult false) token r.arguments counter)
  refine ⟨fun result => ?_, fun hown f args values => gives_iff_returns hown,
    fun values scalar h => h.isTruthy_eq_false_iff, ?_, ?_, ?_⟩
  · rw [hasking, Session.answer_map, answer_map_invoked_iff]
    constructor
    · rintro ⟨values, hanswer, rfl⟩
      obtain ⟨f, args, hgives⟩ := (answer_callSite_invoked_iff _ _ _ _ _ _).mp hanswer
      exact ⟨f, args, values, _, hgives, Scalar.reads_ofResults values, rfl⟩
    · rintro ⟨f, args, values, scalar, hgives, hreads, rfl⟩
      refine ⟨values, (answer_callSite_invoked_iff _ _ _ _ _ _).mpr ⟨f, args, hgives⟩, ?_⟩
      rw [(Scalar.reads_iff values scalar).mp hreads]
  · intro first rest others scalar hreads
    rw [Scalar.reads_iff] at hreads ⊢
    rw [hreads]
    cases first <;> rfl
  · rw [hasking, hnotAsking, Session.answer_map, Session.answer_map]
    rcases s.answer (callSite token r r.arguments counter) with ⟨_, _, _ | _ | _⟩ <;> rfl
  · rw [hasking, hnotAsking, Session.after_map, Session.after_map]

/-- An engine with a new machine, in which a function stands under the name `f`. -/
def equipped (f : Function) : Session where
  engine :=
    { Engine.new .default .none .log "" with
      live := some ⟨Vm.fresh.write Vm.globals (.text "f") (.function f),
        ⟨114, .native (.basic .xpcall)⟩, ⟨103, .native (.basic .pcall)⟩⟩
      generation := 1 }
  index := .empty
  around := .fresh (some (Document.new "W"))

/-- The machine of an equipped engine calls with its own functions. -/
theorem ownInvoker_equipped (f : Function) : OwnInvoker (equipped f) := by
  intro live hlive
  cases hlive
  exact ⟨rfl, rfl⟩

/-- A request for the function of that name. -/
def calling : Request := .new "f" "trigger" ""

/-- A dispatch to an equipped engine reaches its function. -/
theorem exists_reaches_equipped (f : Function) (arguments : Machine (List Value))
    (args : List Value) (h : ∀ vm, Machine.run arguments vm = (.ok args, vm)) :
    ∃ live vm, Reaches (equipped f) .fresh calling arguments live f args vm := by
  have hpeek : ((Vm.fresh.write Vm.globals (.text "f") (.function f)).settled).peek "f" =
      some (some (.function f)) := by
    rfl
  exact ⟨_, _, rfl, rfl, ⟨_, run_lookupFunction_of_peek hpeek, h _⟩⟩

/-- A function that returns a numeral and `false`. -/
def twelve : Function :=
  ⟨1000, .script ⟨[], 1, [.leave [.string (textBytes "12"), .boolean false]]⟩⟩

/-- The numeral counts, and the `false` behind it does not. -/
theorem scalars_tell_the_first_result_twelve :
    ∃ scalar, scalar.isTruthy = true ∧
      ((equipped twelve).answer
        (dispatch .fresh { calling with wantResult := true } 0)).answer =
          .ok (.invoked (some scalar)) ∧
      ((equipped twelve).answer
        (dispatch .fresh { calling with wantResult := false } 0)).answer =
          .ok (.invoked none) := by
  obtain ⟨hinvoked, hown, hfalse, -, hnone, -⟩ :=
    scalars_tell_the_first_result (equipped twelve) .fresh calling 0
  obtain ⟨live, vm, hreaches⟩ :=
    exists_reaches_equipped twelve calling.arguments [] fun vm => rfl
  have hreturns : Returns (equipped twelve) .fresh calling calling.arguments twelve []
      [.string (textBytes "12"), .boolean false] :=
    ⟨live, vm, _, hreaches, rfl⟩
  have hgives := (hown (ownInvoker_equipped twelve) _ _ _).mpr hreturns
  have hreads : Scalar.Reads [.string (textBytes "12"), .boolean false]
      (.number (Number.integer 12).toDouble) := .numeral _ rfl
  have hanswer := (hinvoked _).mpr ⟨_, _, _, _, hgives, hreads, rfl⟩
  refine ⟨_, ?_, hanswer, ?_⟩
  · refine eq_true_of_ne_false fun hfailure => ?_
    obtain ⟨rest, hfirst⟩ := (hfalse _ _ hreads).mp hfailure
    cases hfirst
  · rw [hnone, answer_map_invoked_iff]
    exact ⟨_, hanswer, rfl⟩

end Operation

end EventScripts
