import EventScripts.Proofs.NativeCalls
import EventScripts.Proofs.TextBytes
import EventScripts.Script.Stock
import Mathlib.Algebra.Group.Int.Defs
import Mathlib.Algebra.Group.Nat.Defs

/-!
# The arithmetic of progress indicators

A script may choose any bounds, position and step among the integers of 64 bits. What an indicator
shows is computed with 128 bits, and new bounds move the position with a cut that is defined only
between bounds in order. `Progress.percent?` and `Progress.Move.after?` are the computations that
stop where a machine integer would overflow, a divisor is zero or the bounds of a cut are out of
order. They never stop, and give what `Progress.percent` and the changes of an indicator give.

The quotient is rounded toward zero, so below the lower bound it is not the floor; the cut to 0 up
to 100 makes both the same.
-/

set_option autoImplicit false

namespace EventScripts

/-! ## Arithmetic that stops -/

namespace Checked

/-- An integer, if it is a signed one of so many bits. -/
def fit? (bits : Nat) (i : Int) : Option Int :=
  if -2 ^ (bits - 1) ≤ i ∧ i < 2 ^ (bits - 1) then some i else none

/-- An integer, if it is an unsigned one of so many bits. -/
def natural? (bits : Nat) (i : Int) : Option Nat :=
  if 0 ≤ i ∧ i < 2 ^ bits then some i.toNat else none

/-- A difference that does not overflow. -/
def difference? (bits : Nat) (i j : Int) : Option Int := fit? bits (i - j)

/-- A product that does not overflow. -/
def product? (bits : Nat) (i j : Int) : Option Int := fit? bits (i * j)

/-- A quotient by something else than zero that does not overflow. -/
def quotient? (bits : Nat) (i j : Int) : Option Int :=
  if j = 0 then none else fit? bits (i.tdiv j)

/-- A value cut to bounds in order. -/
def clamp? {α : Type} [LE α] [DecidableLE α] [Max α] [Min α] (low high x : α) : Option α :=
  if low ≤ high then some (max low (min x high)) else none

/-- An integer between the bounds fits. -/
theorem fit?_eq_some {bits : Nat} {i : Int} (hlow : -2 ^ (bits - 1) ≤ i)
    (hhigh : i < 2 ^ (bits - 1)) : fit? bits i = some i :=
  if_pos ⟨hlow, hhigh⟩

/-- A natural number fits if it is below the bound. -/
theorem natural?_natCast (bits n : Nat) :
    natural? bits (n : Int) = if n < 2 ^ bits then some n else none := by
  have hfits : (0 ≤ (n : Int) ∧ (n : Int) < 2 ^ bits) ↔ n < 2 ^ bits := by
    have hcast : ((2 ^ bits : Nat) : Int) = 2 ^ bits := Int.natCast_pow 2 bits
    omega
  unfold natural?
  simp only [hfits, Int.toNat_natCast]

/-- An integer that is such a number fits. -/
theorem natural?_eq_some {bits n : Nat} {i : Int} (hi : i = n) (hn : n < 2 ^ bits) :
    natural? bits i = some n := by
  rw [hi, natural?_natCast, if_pos hn]

end Checked

/-! ## The order of integers of 64 bits -/

/-- The smaller of two words is the smaller number. -/
theorem toInt_min (x y : Int64) : (min x y).toInt = min x.toInt y.toInt := by
  show (if x ≤ y then x else y).toInt = _
  split <;> rename_i h <;> rw [Int64.le_iff_toInt_le] at h <;> omega

/-- The larger of two words is the larger number. -/
theorem toInt_max (x y : Int64) : (max x y).toInt = max x.toInt y.toInt := by
  show (if x ≤ y then y else x).toInt = _
  split <;> rename_i h <;> rw [Int64.le_iff_toInt_le] at h <;> omega

namespace Progress

/-! ## The share that is done -/

/-- The share that is done, in arithmetic of 128 bits that stops. -/
def percent? (p : Progress) : Option Int64 := do
  let span ← Checked.difference? 128 p.high.toInt p.low.toInt
  let done ← Checked.difference? 128 p.position.toInt p.low.toInt
  let product ← Checked.product? 128 done 100
  let share ← Checked.quotient? 128 product (max span 1)
  let cut ← Checked.clamp? 0 100 share
  return Int64.ofInt (← Checked.fit? 64 cut)

/-- Dividing does not make an integer longer. -/
theorem natAbs_tdiv_le (i j : Int) : (i.tdiv j).natAbs ≤ i.natAbs := by
  rw [Int.natAbs_tdiv]
  exact Nat.div_le_self _ _

/-- Rounding toward zero or down makes no difference once negative values are cut off. -/
theorem max_zero_tdiv {i j : Int} (hj : 0 < j) : max 0 (i.tdiv j) = max 0 (i.fdiv j) := by
  have hsign : j.sign = 1 := Int.sign_eq_one_of_pos hj
  rw [Int.fdiv_eq_ediv_of_nonneg i (Int.le_of_lt hj), Int.tdiv_eq_ediv, hsign]
  split
  · rw [Int.add_zero]
  · next h =>
    have hneg : i / j < 0 := Int.ediv_neg_of_neg_of_pos (by omega) hj
    omega

section

variable (p : Progress)

/-- The share that is shown is a quotient rounded toward zero, cut to a percentage. -/
theorem percent_eq : p.percent = max 0 (min (((p.position.toInt - p.low.toInt) * 100).tdiv
    (max (p.high.toInt - p.low.toInt) 1)) 100) := rfl

/-- The share is a percentage. -/
theorem percent_range : 0 ≤ p.percent ∧ p.percent ≤ 100 := by
  rw [percent_eq]
  omega

/-- The share is computed without an overflow and without dividing by zero. -/
theorem percent?_eq_some : p.percent? = some (Int64.ofInt p.percent) := by
  have hlow := p.low.le_toInt
  have hlow' := p.low.toInt_lt
  have hhigh := p.high.le_toInt
  have hhigh' := p.high.toInt_lt
  have hposition := p.position.le_toInt
  have hposition' := p.position.toInt_lt
  have hspan : Checked.difference? 128 p.high.toInt p.low.toInt =
      some (p.high.toInt - p.low.toInt) := Checked.fit?_eq_some (by omega) (by omega)
  have hdone : Checked.difference? 128 p.position.toInt p.low.toInt =
      some (p.position.toInt - p.low.toInt) := Checked.fit?_eq_some (by omega) (by omega)
  have hproduct : Checked.product? 128 (p.position.toInt - p.low.toInt) 100 =
      some ((p.position.toInt - p.low.toInt) * 100) := Checked.fit?_eq_some (by omega) (by omega)
  have hquotient : Checked.quotient? 128 ((p.position.toInt - p.low.toInt) * 100)
      (max (p.high.toInt - p.low.toInt) 1) =
        some (((p.position.toInt - p.low.toInt) * 100).tdiv
          (max (p.high.toInt - p.low.toInt) 1)) := by
    have hlength := natAbs_tdiv_le ((p.position.toInt - p.low.toInt) * 100)
      (max (p.high.toInt - p.low.toInt) 1)
    unfold Checked.quotient?
    rw [if_neg (by omega)]
    exact Checked.fit?_eq_some (by omega) (by omega)
  have hclamp : ∀ share : Int,
      Checked.clamp? 0 100 share = some (max 0 (min share 100)) := fun _ => rfl
  have hfit : Checked.fit? 64 p.percent = some p.percent :=
    have hrange := p.percent_range
    Checked.fit?_eq_some (by omega) (by omega)
  rw [percent_eq] at hfit ⊢
  unfold percent?
  simp only [hspan, hdone, hproduct, hquotient, hclamp, hfit, Option.bind_eq_bind,
    Option.bind_some, Option.pure_def]

/-- Between bounds in order the share is the floor of the quotient, cut to a percentage. -/
theorem percent_of_lt (h : p.low < p.high) :
    p.percent = max 0 (min ((100 * (p.position.toInt - p.low.toInt)).fdiv
      (p.high.toInt - p.low.toInt)) 100) := by
  have hspan : max (p.high.toInt - p.low.toInt) 1 = p.high.toInt - p.low.toInt := by
    rw [Int64.lt_iff_toInt_lt] at h
    omega
  have hround := max_zero_tdiv (i := (p.position.toInt - p.low.toInt) * 100)
    (j := p.high.toInt - p.low.toInt) (by omega)
  rw [percent_eq, hspan, Int.mul_comm 100]
  omega

/-- Between bounds that are not in order there is nothing to divide. -/
theorem percent_of_le (h : p.high ≤ p.low) :
    p.percent = if p.position ≤ p.low then 0 else 100 := by
  have hspan : max (p.high.toInt - p.low.toInt) 1 = 1 := by
    rw [Int64.le_iff_toInt_le] at h
    omega
  rw [percent_eq, hspan, Int.tdiv_one]
  split <;> rename_i hle <;> rw [Int64.le_iff_toInt_le] at hle <;> omega

/-- The share is whole from the upper bound on. -/
theorem percent_eq_hundred_iff (h : p.low < p.high) : p.percent = 100 ↔ p.high ≤ p.position := by
  have hspan : 0 < p.high.toInt - p.low.toInt := by
    rw [Int64.lt_iff_toInt_lt] at h
    omega
  have hwhole : 100 ≤ (100 * (p.position.toInt - p.low.toInt)) / (p.high.toInt - p.low.toInt) ↔
      p.high.toInt ≤ p.position.toInt := by
    rw [Int.le_ediv_iff_mul_le hspan]
    omega
  rw [Int64.le_iff_toInt_le, p.percent_of_lt h, Int.fdiv_eq_ediv_of_nonneg _ (Int.le_of_lt hspan),
    ← hwhole]
  omega

/-- The share does not fall when the position rises. -/
theorem percent_setPosition_mono {position : Int64} (hle : p.position ≤ position) :
    p.percent ≤ (p.setPosition position).percent := by
  rw [Int64.le_iff_toInt_le] at hle
  by_cases h : p.low < p.high
  · have hspan : 0 < p.high.toInt - p.low.toInt := by
      rw [Int64.lt_iff_toInt_lt] at h
      omega
    have hnext : (p.setPosition position).percent =
        max 0 (min ((100 * (position.toInt - p.low.toInt)).fdiv
          (p.high.toInt - p.low.toInt)) 100) := (p.setPosition position).percent_of_lt h
    have hquotient := Int.ediv_le_ediv hspan
      (by omega : 100 * (p.position.toInt - p.low.toInt) ≤ 100 * (position.toInt - p.low.toInt))
    rw [p.percent_of_lt h, hnext, Int.fdiv_eq_ediv_of_nonneg _ (Int.le_of_lt hspan),
      Int.fdiv_eq_ediv_of_nonneg _ (Int.le_of_lt hspan)]
    omega
  · rw [Int64.not_lt] at h
    have hnext : (p.setPosition position).percent = if position ≤ p.low then 0 else 100 :=
      (p.setPosition position).percent_of_le h
    simp only [p.percent_of_le h, hnext, Int64.le_iff_toInt_le]
    split <;> split <;> omega

/-! ## The changes of an indicator -/

/-- Bounds that are put in order are in order. -/
theorem min_le_max (x y : Int64) : min x y ≤ max y x := by
  rw [Int64.le_iff_toInt_le, toInt_min, toInt_max]
  omega

/-- New bounds move the position between them, whichever is the greater one. -/
theorem setRange_position (low high : Int64) :
    min low.toInt high.toInt ≤ (p.setRange low high).position.toInt ∧
      (p.setRange low high).position.toInt ≤ max low.toInt high.toInt := by
  unfold setRange
  rw [toInt_max, toInt_min, toInt_min, toInt_max]
  omega

/-- A step adds to the position, and stays at the ends of the integers. -/
theorem advance_position : p.advance.position.toInt =
    max (-2 ^ 63) (min (p.position.toInt + p.step.toInt) (2 ^ 63 - 1)) := by
  have hleast : Int64.minValue.toInt = -2 ^ 63 := rfl
  have hgreatest : Int64.maxValue.toInt = 2 ^ 63 - 1 := rfl
  unfold advance clampInteger
  rw [hleast, hgreatest]
  exact Int64.toInt_ofInt_of_le (by omega) (by omega)

end

/-- A call of a method that a script may make, with its arguments. -/
inductive Move where
  | range (low high : Int64)
  | position (position : Int64)
  | setStep (step : Int64)
  | step
  | status (text : String)
  | close

namespace Move

/-- The indicator after a call. -/
def after : Move → Progress → Progress
  | .range low high, p => p.setRange low high
  | .position x, p => p.setPosition x
  | .setStep s, p => p.setStep s
  | .step, p => p.advance
  | .status text, p => p.setStatus text
  | .close, p => { p with closed := true }

/-- The indicator after a call, in arithmetic that stops: the cut to new bounds, and the share in
the line that shows a change. -/
def after? (m : Move) (p : Progress) : Option Progress :=
  match m with
  | .range low high => do
    let position ← Checked.clamp? (min low high) (max high low) p.position
    return { p with low, high, position }
  | .position _ | .step | .status _ => do
    discard (m.after p).percent?
    return m.after p
  | .setStep _ | .close => some (m.after p)

/-- No call stops. -/
theorem after?_eq_some (m : Move) (p : Progress) : m.after? p = some (m.after p) := by
  cases m with
  | range low high =>
    have hclamp : Checked.clamp? (min low high) (max high low) p.position =
        some (max (min low high) (min p.position (max high low))) := if_pos (min_le_max low high)
    unfold after?
    dsimp only
    rw [hclamp]
    rfl
  | position _ | step | status _ =>
    unfold after?
    dsimp only
    rw [percent?_eq_some]
    rfl
  | setStep _ | close => rfl

end Move

/-- No history of calls stops. -/
theorem foldlM_after? (moves : List Move) (p : Progress) :
    moves.foldlM (fun p m => m.after? p) p = some (moves.foldl (fun p m => m.after p) p) := by
  induction moves generalizing p with
  | nil => rfl
  | cons m moves ih =>
    rw [List.foldlM_cons, m.after?_eq_some, Option.bind_eq_bind, Option.bind_some, ih,
      List.foldl_cons]

end Progress

namespace Script

/-! ## Calls of the methods -/

/-- The method and the arguments of a call. -/
def Move.spelled : Progress.Move → ProgressMethod × List Value
  | .range low high => (.range, [.integer low, .integer high])
  | .position x => (.position, [.integer x])
  | .setStep s => (.setStep, [.integer s])
  | .step => (.step, [])
  | .status text => (.status, [.text text])
  | .close => (.close, [])

/-- Calls a method of an indicator. -/
def Move.run (call : Caller) (site : Site) (ref : Nat) (m : Progress.Move) :
    Machine (List Value) :=
  (Native.progressMethod (spelled m).1).run call site (.object ref :: (spelled m).2)

/-- The machine has an indicator in this state. -/
def Vm.Indicates (vm : Vm) (ref : Nat) (p : Progress) : Prop :=
  vm.objects[ref]? = some (.progress p)

section

variable {vm : Vm} {ref : Nat} {p : Progress}

/-- The indicator is the object of its number. -/
theorem Vm.Indicates.object (h : vm.Indicates ref p) :
    vm.objects[ref]? = some (.progress p) := h

/-- An indicator that is set has the new state. -/
theorem indicates_set (h : vm.Indicates ref p) (q : Progress) :
    Vm.Indicates { vm with objects := vm.objects.set! ref (.progress q) } ref q := by
  obtain ⟨hlt, -⟩ := Array.getElem?_eq_some_iff.mp h
  unfold Vm.Indicates
  rw [Array.set!_eq_setIfInBounds, Array.getElem?_setIfInBounds, if_pos rfl, if_pos hlt]

/-- A change gives no results and leaves the new state. -/
theorem run_changed (h : vm.Indicates ref p) (q : Progress) :
    ∃ vm', Machine.run (changed ref q) vm = (.ok [], vm') ∧ vm'.Indicates ref q :=
  ⟨_, rfl, indicates_set h q⟩

/-- So does a change that is shown. -/
theorem run_shown (h : vm.Indicates ref p) (q : Progress) :
    ∃ vm', Machine.run (shown ref q) vm = (.ok [], vm') ∧ vm'.Indicates ref q :=
  ⟨_, rfl, indicates_set h q⟩

/-- A text of a script is read as this text. -/
@[simp] theorem toText?_text (s : String) : Value.toText? (.text s) = some s :=
  text?_textBytes s

/-- Every call succeeds, without results, and changes the indicator as it says. -/
theorem run_move (h : vm.Indicates ref p) (m : Progress.Move) (call : Caller) (site : Site) :
    ∃ vm', Machine.run (Move.run call site ref m) vm = (.ok [], vm') ∧
      vm'.Indicates ref (m.after p) := by
  unfold Move.run Native.run ProgressMethod.run
  rw [Machine.run_bind_of_ok (Machine.run_get vm),
    Machine.run_bind_of_ok (run_converted (a := (ref, p)) (by simp [h.object]) site vm)]
  cases m with
  | range low high =>
    obtain ⟨vm', hchanged, hafter⟩ := run_changed h (p.setRange low high)
    refine ⟨vm', ?_, hafter⟩
    refine (Machine.run_bind_of_ok (run_converted (toInt64?_integer low) site vm) _).trans ?_
    exact (Machine.run_bind_of_ok (run_converted (toInt64?_integer high) site vm) _).trans hchanged
  | position x =>
    obtain ⟨vm', hshown, hafter⟩ := run_shown h (p.setPosition x)
    refine ⟨vm', ?_, hafter⟩
    exact (Machine.run_bind_of_ok (run_converted (toInt64?_integer x) site vm) _).trans hshown
  | setStep s =>
    obtain ⟨vm', hchanged, hafter⟩ := run_changed h (p.setStep s)
    refine ⟨vm', ?_, hafter⟩
    exact (Machine.run_bind_of_ok (run_converted (toInt64?_integer s) site vm) _).trans hchanged
  | step => exact run_shown h p.advance
  | status text =>
    obtain ⟨vm', hshown, hafter⟩ := run_shown h (p.setStatus text)
    refine ⟨vm', ?_, hafter⟩
    exact (Machine.run_bind_of_ok (run_converted (toText?_text text) site vm) _).trans hshown
  | close =>
    by_cases hclosed : p.closed
    · -- An indicator that is closed already is left alone.
      have hsame : Progress.Move.after .close p = p := by
        unfold Progress.Move.after
        rw [← hclosed]
      refine ⟨vm, ?_, hsame.symm ▸ h⟩
      simp [Move.spelled, hclosed]
    · have htold : Vm.Indicates { vm with journal := .log p.closedLine :: vm.journal } ref p := h
      obtain ⟨vm', hchanged, hafter⟩ := run_changed htold { p with closed := true }
      refine ⟨vm', ?_, hafter⟩
      simp only [Move.spelled, hclosed, Bool.false_eq_true, if_false]
      exact hchanged

/-- The share is read without changing anything. -/
theorem run_percent (h : vm.Indicates ref p) (call : Caller) (site : Site) :
    Machine.run ((Native.progressMethod .percent).run call site [.object ref]) vm =
      (.ok [.integer (Int64.ofInt p.percent)], vm) := by
  unfold Native.run ProgressMethod.run
  rw [Machine.run_bind_of_ok (Machine.run_get vm),
    Machine.run_bind_of_ok (run_converted (a := (ref, p)) (by simp [h.object]) site vm)]
  rfl

end

/-! ## Histories -/

/-- The title of a new indicator as an argument: it may be left out. -/
def titleArgument (title : Option String) : Value := title.elim .nil .text

/-- A new indicator is one more object of the machine. -/
theorem run_progressNew (title : Option String) (call : Caller) (site : Site) (vm : Vm) :
    ∃ ref vm', Machine.run (Native.progressNew.run call site [titleArgument title]) vm =
        (.ok [.object ref], vm') ∧ vm'.Indicates ref (.fresh title) := by
  have htitle : Value.toOptional? Value.toText? (titleArgument title) = some title := by
    cases title with
    | none => rfl
    | some s =>
      show (Value.toText? (.text s)).map some = _
      rw [toText?_text, Option.map_some]
  refine ⟨_, _, (Machine.run_bind_of_ok (run_converted htitle site vm) _).trans rfl, ?_⟩
  exact Array.getElem?_push_size

/-- The machine has an indicator with a history: it was made, and then its methods were called one
after the other, whoever called them. In between anything may have happened to the machine that
leaves the indicator alone. -/
inductive History (title : Option String) (ref : Nat) : List Progress.Move → Vm → Prop where
  | made {call : Caller} {site : Site} {vm vm' : Vm} :
    Machine.run (Native.progressNew.run call site [titleArgument title]) vm =
      (.ok [.object ref], vm') → History title ref [] vm'
  | called {moves : List Progress.Move} {m : Progress.Move} {call : Caller} {site : Site}
      {vm vm' : Vm} {r : Except Value (List Value)} :
    History title ref moves vm → Machine.run (Move.run call site ref m) vm = (r, vm') →
      History title ref (moves ++ [m]) vm'
  | elsewhere {moves : List Progress.Move} {vm vm' : Vm} :
    History title ref moves vm → vm'.objects[ref]? = vm.objects[ref]? →
      History title ref moves vm'

/-- The indicator that a history leads to. -/
def reached (title : Option String) (moves : List Progress.Move) : Progress :=
  moves.foldl (fun p m => m.after p) (.fresh title)

/-- An indicator is what its history leads to. -/
theorem History.indicates {title : Option String} {ref : Nat} {moves : List Progress.Move}
    {vm : Vm} (h : History title ref moves vm) : vm.Indicates ref (reached title moves) := by
  induction h with
  | @made call site vm vm' hrun =>
    obtain ⟨ref', vm'', hnew, hfresh⟩ := run_progressNew title call site vm
    rw [hnew] at hrun
    cases hrun
    exact hfresh
  | @called moves m call site vm vm' r _ hrun ih =>
    obtain ⟨vm'', hmove, hafter⟩ := run_move ih m call site
    rw [hmove] at hrun
    cases hrun
    unfold reached
    rw [List.foldl_append]
    exact hafter
  | elsewhere _ hsame ih => exact hsame.trans ih

/-- Every list of calls can be made. -/
theorem History.exists_append {title : Option String} {ref : Nat} {done : List Progress.Move}
    {vm : Vm} (h : History title ref done vm) (call : Caller) (site : Site)
    (moves : List Progress.Move) : ∃ vm', History title ref (done ++ moves) vm' := by
  induction moves generalizing done vm with
  | nil => exact ⟨vm, by rwa [List.append_nil]⟩
  | cons m moves ih =>
    obtain ⟨vm₁, hmove, -⟩ := run_move h.indicates m call site
    obtain ⟨vm', hrest⟩ := ih (.called h hmove)
    rw [List.append_assoc] at hrest
    exact ⟨vm', hrest⟩

/-- What holds of the arithmetic of an indicator. -/
structure ExactProgress (p : Progress) : Prop where
  percent? : p.percent? = some (Int64.ofInt p.percent)
  percent_range : 0 ≤ p.percent ∧ p.percent ≤ 100
  forward : p.low < p.high → p.percent = max 0 (min
    ((100 * (p.position.toInt - p.low.toInt)).fdiv (p.high.toInt - p.low.toInt)) 100)
  mono : ∀ position : Int64, p.position ≤ position →
    p.percent ≤ (p.setPosition position).percent
  whole : p.low < p.high → (p.percent = 100 ↔ p.high ≤ p.position)
  reversed : p.high ≤ p.low → p.percent = if p.position ≤ p.low then 0 else 100
  range : ∀ low high : Int64, min low.toInt high.toInt ≤ (p.setRange low high).position.toInt ∧
    (p.setRange low high).position.toInt ≤ max low.toInt high.toInt
  step : p.advance.position.toInt =
    max (-2 ^ 63) (min (p.position.toInt + p.step.toInt) (2 ^ 63 - 1))

/-- Whatever calls an indicator has behind it, none of them stopped, every further one succeeds and
does to the indicator what it says, and the share that is read is the exact one. -/
theorem progress_is_exact_after_every_history {title : Option String} {ref : Nat}
    {moves : List Progress.Move} {vm : Vm} (h : History title ref moves vm) :
    moves.foldlM (fun p m => m.after? p) (.fresh title) = some (reached title moves) ∧
    vm.Indicates ref (reached title moves) ∧
    (∀ (m : Progress.Move) (call : Caller) (site : Site),
      m.after? (reached title moves) = some (m.after (reached title moves)) ∧
      ∃ vm', Machine.run (Move.run call site ref m) vm = (.ok [], vm') ∧
        vm'.Indicates ref (m.after (reached title moves))) ∧
    (∀ (call : Caller) (site : Site),
      ∃ share : Int64, share.toInt = (reached title moves).percent ∧
        Machine.run ((Native.progressMethod .percent).run call site [.object ref]) vm =
          (.ok [.integer share], vm)) ∧
    ExactProgress (reached title moves) := by
  have hind := h.indicates
  generalize hp : reached title moves = p at hind
  have hrange := p.percent_range
  refine ⟨?_, hind, fun m call site => ⟨m.after?_eq_some p, run_move hind m call site⟩,
    fun call site => ⟨Int64.ofInt p.percent, ?_, run_percent hind call site⟩, ?_⟩
  · rw [← hp]
    exact Progress.foldlM_after? moves (.fresh title)
  · exact Int64.toInt_ofInt_of_le (by omega) (by omega)
  · exact {
      percent? := p.percent?_eq_some
      percent_range := hrange
      forward := p.percent_of_lt
      mono := fun _ hle => p.percent_setPosition_mono hle
      whole := p.percent_eq_hundred_iff
      reversed := p.percent_of_le
      range := p.setRange_position
      step := p.advance_position }

/-- Bounds that are the ends of the integers and the wrong way round, and a step past an end. -/
theorem progress_is_exact_at_the_ends_of_the_integers :
    ∃ ref vm, History (some "Load") ref
        [.range .maxValue .minValue, .position .maxValue, .setStep .maxValue, .step, .close] vm ∧
      ∃ share : Int64, share.toInt = 0 ∧
        Machine.run ((Native.progressMethod .percent).run invoke .outside [.object ref]) vm =
          (.ok [.integer share], vm) := by
  obtain ⟨ref, vm₁, hmade, -⟩ := run_progressNew (some "Load") invoke .outside .fresh
  obtain ⟨vm, hhistory⟩ := (History.made hmade).exists_append invoke .outside
    [.range .maxValue .minValue, .position .maxValue, .setStep .maxValue, .step, .close]
  obtain ⟨-, -, -, hshare, -⟩ := progress_is_exact_after_every_history hhistory
  have hpercent : (reached (some "Load") [.range .maxValue .minValue, .position .maxValue,
      .setStep .maxValue, .step, .close]).percent = 0 := by decide
  obtain ⟨share, hvalue, hrun⟩ := hshare invoke .outside
  exact ⟨ref, vm, hhistory, share, hvalue.trans hpercent, hrun⟩

end Script

end EventScripts
