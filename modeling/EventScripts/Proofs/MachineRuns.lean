import EventScripts.Script.Invocation

/-!
# Runs of composed computations

A run of a computation of the machine ends with a result or with an error value, and leaves a
machine either way. The lemmas here say what the run of a composed computation is in terms of the
runs of its parts, so that proofs about functions of the engine go along their text and never open
the monad. An error ends a sequence where it occurs; only `tryCatch` and `outcome` go on after one,
in the machine that the failing part left. A request to the files is answered in the course of a
run, and what comes after it runs among the files as they are then.
-/

set_option autoImplicit false

namespace EventScripts.Script

variable {α β γ : Type}

/-! ## How computations go on -/

namespace Course

/-- To go on twice is to go on with what goes on. -/
theorem andThen_andThen (f : Except Value α → Store → Course β)
    (g : Except Value β → Store → Course γ) (c : Course α) :
    (c.andThen f).andThen g = c.andThen fun result store => (f result store).andThen g := by
  induction c with
  | ended result store => rfl
  | asking q rest ih => exact congrArg (asking q) (funext ih)

/-- To go on with the end itself changes nothing. -/
theorem andThen_ended (c : Course α) : c.andThen ended = c := by
  induction c with
  | ended result store => rfl
  | asking q rest ih => exact congrArg (asking q) (funext ih)

/-- What comes after the end of a computation runs among the files that the computation left. -/
theorem finish_andThen (next : Except Value α → Store → Course β) (c : Course α) :
    ∀ (files : FileTree) (asked : List FileRequest),
      (c.andThen next).finish files asked =
        let (result, vm) := c.finish files asked
        (next result vm.toStore).finish vm.files vm.asked := by
  induction c with
  | ended result store => exact fun _ _ => rfl
  | asking q rest ih => exact fun files asked => ih _ _ _

end Course

namespace Machine

/-- Sequences of computations can be read in any grouping, and results put nothing in between. -/
instance : LawfulMonad Machine := LawfulMonad.mk' Machine
  (fun m => funext fun store => by
    refine (congrArg (m store).andThen (funext fun r => ?_)).trans (Course.andThen_ended _)
    cases r <;> rfl)
  (fun _ _ => rfl)
  (fun m f g => funext fun store => by
    refine (Course.andThen_andThen _ _ (m store)).trans (congrArg (m store).andThen
      (funext fun r => ?_))
    cases r <;> rfl)

/-! ## Results, errors, the machine itself and requests -/

/-- A result leaves the machine as it is. -/
@[simp] theorem run_pure (a : α) (vm : Vm) : Machine.run (pure a) vm = (.ok a, vm) := by
  rfl

/-- An error leaves the machine as it is. -/
@[simp] theorem run_throw (e : Value) (vm : Vm) :
    Machine.run (throw e : Machine α) vm = (.error e, vm) := by
  rfl

/-- What the machine holds can be read without changing it. -/
@[simp] theorem run_get (vm : Vm) : Machine.run get vm = (.ok vm.toStore, vm) := by
  rfl

/-- A change of what the machine holds that also gives a result. -/
@[simp] theorem run_modifyGet (f : Store → α × Store) (vm : Vm) :
    Machine.run (modifyGet f) vm =
      (.ok (f vm.toStore).1, { vm with toStore := (f vm.toStore).2 }) := by
  rfl

/-! ## Sequences -/

/-- The second part runs in the machine that the first one left, unless the first one failed. -/
theorem run_bind (x : Machine α) (f : α → Machine β) (vm : Vm) :
    Machine.run (x >>= f) vm = match Machine.run x vm with
      | (.ok a, vm') => Machine.run (f a) vm'
      | (.error e, vm') => (.error e, vm') := by
  refine (Course.finish_andThen _ (x vm.toStore) vm.files vm.asked).trans ?_
  unfold Machine.run
  rcases (x vm.toStore).finish vm.files vm.asked with ⟨_ | _, _⟩ <;> rfl

/-- A sequence goes on after a first part that gave a result. -/
theorem run_bind_of_ok {x : Machine α} {vm vm' : Vm} {a : α}
    (hx : Machine.run x vm = (.ok a, vm')) (f : α → Machine β) :
    Machine.run (x >>= f) vm = Machine.run (f a) vm' := by
  rw [run_bind, hx]

/-- A function of the result is applied after the run. -/
theorem run_map (f : α → β) (x : Machine α) (vm : Vm) :
    Machine.run (f <$> x) vm = ((Machine.run x vm).1.map f, (Machine.run x vm).2) := by
  rw [map_eq_pure_bind, run_bind]
  rcases Machine.run x vm with ⟨_ | _, _⟩ <;> rfl

/-! ## Computations that go on after an error -/

/-- The handler runs in the machine that the failing part left. -/
theorem run_tryCatch (m : Machine α) (handle : Value → Machine α) (vm : Vm) :
    Machine.run (tryCatch m handle) vm = match Machine.run m vm with
      | (.ok a, vm') => (.ok a, vm')
      | (.error e, vm') => Machine.run (handle e) vm' := by
  refine (Course.finish_andThen _ (m vm.toStore) vm.files vm.asked).trans ?_
  unfold Machine.run
  rcases (m vm.toStore).finish vm.files vm.asked with ⟨_ | _, _⟩ <;> rfl

/-- The outcome of a computation is a result, whatever the computation ends with. -/
@[simp] theorem run_outcome (m : Machine α) (vm : Vm) :
    Machine.run (outcome m) vm = (.ok (Machine.run m vm).1, (Machine.run m vm).2) := by
  unfold outcome
  rw [run_tryCatch, run_map]
  rcases Machine.run m vm with ⟨_ | _, _⟩ <;> rfl

/-- A computation that gives a result has no fault. -/
theorem run_orFault_of_ok {m : Machine α} {vm vm' : Vm} {a : α}
    (hm : Machine.run m vm = (.ok a, vm')) :
    Machine.run (orFault m) vm = (.ok (.ok a), vm') := by
  have hout : Machine.run (outcome m) vm = (.ok (.ok a), vm') := by
    rw [run_outcome, hm]
  unfold orFault
  rw [run_bind_of_ok hout, run_pure]

/-- A computation without a fault gives its result. -/
theorem run_of_orFault_ok {m : Machine α} {vm vm' : Vm} {a : α}
    (h : Machine.run (orFault m) vm = (.ok (.ok a), vm')) :
    Machine.run m vm = (.ok a, vm') := by
  unfold orFault at h
  rw [run_bind_of_ok (run_outcome m vm)] at h
  rcases hm : Machine.run m vm with ⟨e | b, vm''⟩
  · rw [hm] at h
    dsimp only at h
    rw [run_bind] at h
    split at h <;> cases h
  · rw [hm] at h
    cases h
    rfl

/-! ## Calls -/

/-- A function is called as it is. -/
theorem run_callValue_function (call : Caller) (site : Site) (f : Function) (args : List Value)
    (vm : Vm) :
    Machine.run (Machine.callValue call site (.function f) args) vm =
      Machine.run (call site f args) vm := by
  have hcallee : Machine.run (Machine.callee site site.naming (.function f) args) vm =
      (.ok (f, args), vm) := by
    unfold Machine.callee Machine.calleeLimit Machine.calleeAlong
    exact run_pure _ vm
  unfold Machine.callValue
  rw [run_bind_of_ok hcallee]

end Machine

/-- A function that is called from outside runs with one call less to go. -/
theorem invoke_outside (f : Function) (args : List Value) :
    invoke .outside f args = match f.body with
      | .script code => code.run (invokeTo (depthLimit - 1)) .outside args
      | .native n => n.run (invokeTo (depthLimit - 1)) .outside args := by
  have hlimit : ¬ Site.outside.nested = nestedLimit := by decide
  have hreserve : ¬ nestedReserve ≤ Site.outside.nested := by decide
  unfold invoke depthLimit invokeTo
  exact (if_neg hlimit).trans (if_neg hreserve)

/-! ## Room for calls -/

/-- Calls are not nested too deep. A frame whose code runs is one of these, as the call that it runs
for would have been refused otherwise. -/
def HasRoom (nested : Nat) : Prop := nested ≠ nestedLimit ∧ nested < nestedReserve

section

variable {depth : Nat} {site : Site}

/-- If there is room, a call of a script's function runs its code. -/
theorem invokeTo_script {f : Function} {code : Code} (h : f.body = .script code)
    (hroom : HasRoom site.nested) (args : List Value) :
    invokeTo (depth + 1) site f args = code.run (invokeTo depth) site args := by
  rw [invokeTo, if_neg hroom.1, if_neg (Nat.not_le.mpr hroom.2), h]

/-- If there is room, a call of a native function runs it. -/
theorem invokeTo_native {f : Function} {n : Native} (h : f.body = .native n)
    (hroom : HasRoom site.nested) (args : List Value) :
    invokeTo (depth + 1) site f args = n.run (invokeTo depth) site args := by
  rw [invokeTo, if_neg hroom.1, if_neg (Nat.not_le.mpr hroom.2), h]

/-- A call for which there is no room fails and changes nothing. -/
theorem run_invokeTo_of_no_room (h : depth = 0 ∨ ¬ HasRoom site.nested) (f : Function)
    (args : List Value) (vm : Vm) :
    ∃ e, Machine.run (invokeTo depth site f args) vm = (.error e, vm) := by
  cases depth with
  | zero => exact ⟨_, Machine.run_throw _ vm⟩
  | succ depth =>
    have hroom : ¬ HasRoom site.nested := h.resolve_left (Nat.succ_ne_zero depth)
    unfold invokeTo
    by_cases hlimit : site.nested = nestedLimit
    · rw [if_pos hlimit]
      exact ⟨_, Machine.run_throw _ vm⟩
    · have hreserve : nestedReserve ≤ site.nested :=
        Nat.le_of_not_lt fun hlt => hroom ⟨hlimit, hlt⟩
      rw [if_neg hlimit, if_pos hreserve]
      exact ⟨_, Machine.run_throw _ vm⟩

end

end EventScripts.Script
