import EventScripts.Proofs.Lookups
import EventScripts.Script.Invoker

/-!
# Calls out of native code

A function that native code calls may end with any error value. Native code takes it for a fault: a
fault is taken as it is, of any other value the text is asked for, and where asking fails there is
still the plain text. So each error comes to a fault, and a call from outside the machine always
comes to an answer.
-/

set_option autoImplicit false

namespace EventScripts

namespace Script

/-! ## Errors come to faults -/

/-- Every value has a plain text. -/
theorem Machine.run_plainText (v : Value) (vm : Vm) :
    ∃ text, Machine.run (Machine.plainText v) vm = (.ok text, vm) := by
  obtain ⟨label, hlabel⟩ := Machine.run_typeLabel v vm
  unfold Machine.plainText
  -- Only what has an identity is shown by the name of its type.
  cases v with
  | table ref | function f | thread ref | object ref =>
    dsimp only
    rw [Machine.run_bind_of_ok hlabel]
    exact ⟨_, Machine.run_pure _ vm⟩
  | _ => exact ⟨_, Machine.run_pure _ vm⟩

/-- A fault is the fault that it is. -/
@[simp] theorem run_faultOf_fault (call : Caller) (site : Site) (f : Fault) (vm : Vm) :
    Machine.run (faultOf call site (.fault f)) vm = (.ok f, vm) := by
  rfl

/-- Every error value comes to a fault. -/
theorem run_faultOf (call : Caller) (site : Site) (e : Value) (vm : Vm) :
    ∃ cause vm', Machine.run (faultOf call site e) vm = (.ok cause, vm') := by
  have htext : ∃ text vm', Machine.run
      (tryCatch (Machine.textOf call site e) fun _ => Machine.plainText e) vm =
        (.ok text, vm') := by
    rw [Machine.run_tryCatch]
    rcases Machine.run (Machine.textOf call site e) vm with ⟨failed | text, vm'⟩
    · obtain ⟨text, hplain⟩ := Machine.run_plainText e vm'
      exact ⟨text, vm', hplain⟩
    · exact ⟨text, vm', rfl⟩
  obtain ⟨text, vm', htext⟩ := htext
  unfold faultOf
  cases e with
  | fault f => exact ⟨f, vm, Machine.run_pure f vm⟩
  | _ =>
    dsimp only
    rw [Machine.run_bind_of_ok htext]
    exact ⟨_, vm', Machine.run_pure _ vm'⟩

/-- A run always comes to a result or a fault. -/
theorem run_orFault {α : Type} (m : Machine α) (vm : Vm) :
    ∃ r vm', Machine.run (orFault m) vm = (.ok r, vm') := by
  unfold orFault
  rw [Machine.run_bind_of_ok (Machine.run_outcome m vm)]
  rcases Machine.run m vm with ⟨e | a, vm₁⟩
  · obtain ⟨cause, vm₂, hcause⟩ := run_faultOf invoke .outside e vm₁
    dsimp only
    rw [Machine.run_bind_of_ok hcause]
    exact ⟨_, vm₂, Machine.run_pure _ vm₂⟩
  · exact ⟨_, vm₁, Machine.run_pure _ vm₁⟩

/-- A protected call always comes to an answer. -/
theorem Invoker.run_call (inv : Invoker) (f : Function) (args : List Value) (vm : Vm) :
    ∃ answer vm', Machine.run (inv.call f args) vm = (.ok answer, vm') := by
  obtain ⟨handler, vm₁, hlookup⟩ := run_lookupFunction "debug.traceback" vm
  unfold Invoker.call
  rw [Machine.run_bind_of_ok hlookup]
  -- It makes no difference which of the two functions is called.
  extract_lets called
  obtain ⟨r, vm₂, hrun⟩ := run_orFault called vm₁
  rw [Machine.run_bind_of_ok hrun]
  cases r with
  | ok results => exact ⟨_, vm₂, Machine.run_pure _ vm₂⟩
  | error cause => exact ⟨_, vm₂, Machine.run_pure _ vm₂⟩

/-! ## Arguments -/

/-- An argument that converts is taken. -/
theorem run_converted {α : Type} {convert : Value → Option α} {args : List Value} {place : Nat}
    {a : α} (h : convert (args[place - 1]?.getD .nil) = some a) (site : Site) (vm : Vm) :
    Machine.run (converted site args place convert) vm = (.ok a, vm) := by
  unfold converted
  rw [h]
  exact Machine.run_pure a vm

/-- An integer is taken as it is. -/
@[simp] theorem toInt64?_integer (x : Int64) : Value.toInt64? (.integer x) = some x := by
  have hlow := Int64.minValue_le_toInt x
  have hhigh := Int64.toInt_le x
  unfold Value.toInt64?
  show (if _ then _ else _) = _
  rw [if_pos (by simpa using And.intro hlow hhigh), Int64.ofInt_toInt]

/-! ## Calls of native code -/

section

variable {call : Caller} {site : Site} {f : Function} {args : List Value} {vm vm' : Vm}

/-- Native code gets the results of the function that it calls. -/
theorem run_callFromNative_of_ok {results : List Value}
    (h : Machine.run (call site.inner f args) vm = (.ok results, vm')) :
    Machine.run (callFromNative call site f args) vm = (.ok results, vm') := by
  have hout : Machine.run (Machine.outcome (call site.inner f args)) vm =
      (.ok (.ok results), vm') := by
    rw [Machine.run_outcome, h]
  unfold callFromNative
  rw [Machine.run_bind_of_ok hout, Machine.run_pure]

/-- The error of the function that native code calls comes out of it as a fault. -/
theorem run_callFromNative_of_error {e : Value} {cause : Fault} {vm'' : Vm}
    (h : Machine.run (call site.inner f args) vm = (.error e, vm'))
    (hcause : Machine.run (faultOf call site.inner e) vm' = (.ok cause, vm'')) :
    Machine.run (callFromNative call site f args) vm =
      (.error (.fault (.wrapped traceMark cause)), vm'') := by
  have hout : Machine.run (Machine.outcome (call site.inner f args)) vm =
      (.ok (.error e), vm') := by
    rw [Machine.run_outcome, h]
  unfold callFromNative
  rw [Machine.run_bind_of_ok hout]
  dsimp only
  rw [Machine.run_bind_of_ok hcause]
  exact Machine.run_throw _ vm''

end

end Script

end EventScripts
