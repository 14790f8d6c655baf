import EventScripts.Proofs.TableFrames
import EventScripts.Script.Lockdown

/-!
# Tables that list values

A table lists values if they stand under the whole numbers from one on and nothing stands behind
them. Its length is then the number of values, whatever number of slots it was made with: the search
for a border halves an interval that always contains the last value. Taking a value out of the list
moves the values behind it one place forward.

Keys that are no whole numbers have no part in this, and the other way round: what is done to the
list leaves them alone.
-/

set_option autoImplicit false

namespace EventScripts.Script

open Machine

/-- Whole numbers below this bound are different keys when they are different. -/
def listBound : Nat := 0x8000000000000000

/-- Below the bound, different whole numbers are different keys. -/
theorem integer_ofNat_inj {i j : Nat} (hi : i < listBound) (hj : j < listBound) :
    Key.integer (Int64.ofNat i) = Key.integer (Int64.ofNat j) ↔ i = j := by
  unfold listBound at hi hj
  constructor
  · intro h
    have hint : (Int64.ofNat i).toInt = (Int64.ofNat j).toInt :=
      congrArg Int64.toInt (Key.integer.inj h)
    rw [Int64.toInt_ofNat_of_lt hi, Int64.toInt_ofNat_of_lt hj] at hint
    omega
  · intro h
    rw [h]

namespace Table

/-! ## The length of a list -/

/-- A table lists values. -/
structure Lists (t : Table) (vs : List Value) : Prop where
  short : 2 * vs.length < listBound
  slots : 2 * t.slots < listBound
  present : ∀ v ∈ vs, v ≠ .nil
  under : ∀ i, i + 1 < listBound → t.under? (.integer (Int64.ofNat (i + 1))) = vs[i]?

namespace Lists

variable {t : Table} {vs : List Value}

/-- A list has its places from one on up to its length. -/
theorem has_iff (h : t.Lists vs) {i : Nat} (hpos : 0 < i) (hi : i < listBound) :
    t.has i = true ↔ i ≤ vs.length := by
  obtain ⟨j, rfl⟩ : ∃ j, i = j + 1 := ⟨i - 1, by omega⟩
  have hsome : vs[j]?.isSome = true ↔ j < vs.length := by
    rw [Option.isSome_iff_ne_none, ne_eq, List.getElem?_eq_none_iff, Nat.not_le]
  rw [has_eq_under?, h.under j hi, hsome]
  exact Nat.lt_iff_add_one_le

/-- A list gives its values in order, and nil behind them. -/
theorem get (h : t.Lists vs) {i : Nat} (hi : i + 1 < listBound) :
    t.get (.integer (Int64.ofNat (i + 1))) = vs[i]?.getD .nil := by
  rw [get_eq_under?, h.under i hi]

/-- The search between two places finds the last value, if it lies between them. The fuel bounds
the logarithm of their distance, which halves in each step. -/
theorem borderBetween_eq (h : t.Lists vs) (fuel : Nat) {i j : Nat} (hi : i ≤ vs.length)
    (hj : vs.length < j) (hbound : j < listBound) (hfuel : j - i ≤ 1 <<< fuel) :
    t.borderBetween fuel i j = vs.length := by
  induction fuel generalizing i j with
  | zero =>
    simp only [borderBetween]
    omega
  | succ fuel ih =>
    unfold borderBetween
    rw [Nat.shiftLeft_succ] at hfuel
    by_cases hnear : j ≤ i + 1
    · rw [if_pos hnear]
      omega
    · have hmid : (i + j) / 2 < listBound := by omega
      rw [if_neg hnear]
      dsimp only
      by_cases hm : t.has ((i + j) / 2) = true
      · have hle : (i + j) / 2 ≤ vs.length := (h.has_iff (by omega) hmid).mp hm
        rw [if_pos hm]
        exact ih hle hj hbound (by omega)
      · have hlt : vs.length < (i + j) / 2 := by
          rw [h.has_iff (by omega) hmid] at hm
          omega
        rw [if_neg hm]
        exact ih hi hlt hmid (by omega)

/-- The search from a place on doubles it until it is behind the last value. -/
theorem borderAbove_eq (h : t.Lists vs) (fuel : Nat) {i : Nat} (hpos : 0 < i)
    (hi : i ≤ vs.length) (hfuel : vs.length < i <<< fuel) :
    t.borderAbove fuel i = vs.length := by
  have hshort := h.short
  induction fuel generalizing i with
  | zero => omega
  | succ fuel ih =>
    have hdouble : 2 * i < listBound := by omega
    unfold borderAbove
    by_cases hm : t.has (2 * i) = true
    · have hle : 2 * i ≤ vs.length := (h.has_iff (by omega) hdouble).mp hm
      rw [if_pos hm]
      exact ih (by omega) hle (by rwa [← Nat.shiftLeft_succ_inside])
    · have hlt : vs.length < 2 * i := by
        rw [h.has_iff (by omega) hdouble] at hm
        omega
      unfold listBound at hshort
      rw [if_neg hm]
      exact h.borderBetween_eq 64 hi hlt hdouble (by omega)

/-- The length of a table that lists values is their number. -/
theorem length_eq (h : t.Lists vs) : t.length = vs.length := by
  have hshort := h.short
  have hslots := h.slots
  unfold listBound at hshort hslots
  have hhas : ∀ i, 0 < i → i ≤ 0x4000000000000000 → (t.has i = true ↔ i ≤ vs.length) :=
    fun i hpos hi => h.has_iff hpos (by unfold listBound; omega)
  unfold Table.length
  by_cases hbehind : 0 < t.slots ∧ t.has t.slots = false
  · -- The slots reach behind the last value: it is in front of them, or searched for.
    have hlt : vs.length < t.slots := by
      refine Nat.lt_of_not_le fun hle => ?_
      rw [(hhas t.slots hbehind.1 (by omega)).mpr hle] at hbehind
      cases hbehind.2
    rw [if_pos (by simp [hbehind])]
    by_cases hlast : t.slots = vs.length + 1
    · by_cases hm : t.has (t.slots - 1) = true
      · rw [if_pos hm]
        omega
      · rw [if_neg hm]
        exact h.borderBetween_eq 64 (by omega) hlt (by unfold listBound; omega) (by omega)
    · have hm : ¬ t.has (t.slots - 1) = true := by
        rw [hhas _ (by omega) (by omega)]
        omega
      rw [if_neg hm]
      exact h.borderBetween_eq 64 (by omega) hlt (by unfold listBound; omega) (by omega)
  · have hle : t.slots ≤ vs.length := by
      by_cases hzero : t.slots = 0
      · omega
      · refine (hhas t.slots (by omega) (by omega)).mp ?_
        cases hm : t.has t.slots with
        | true => rfl
        | false => exact absurd ⟨by omega, hm⟩ hbehind
    rw [if_neg (by simpa using hbehind)]
    by_cases hm : t.has (t.slots + 1) = true
    · have hnext : t.slots + 1 ≤ vs.length := (hhas _ (by omega) (by omega)).mp hm
      rw [if_neg (by simp [hm])]
      exact h.borderAbove_eq 64 (by omega) (by omega) (by omega)
    · have hnext : ¬ t.slots + 1 ≤ vs.length :=
        fun hle => hm ((hhas _ (by omega) (by omega)).mpr hle)
      rw [if_pos (by simpa using hm)]
      omega

end Lists

/-- Among values numbered from a place on, a number is found if there are enough values. -/
theorem find_numbered (vs : List Value) {j k : Nat} (hj : j < listBound)
    (hk : vs.length + k < listBound) :
    (vs.mapIdx fun i v => (Key.integer (Int64.ofNat (i + k)), v)).find?
        (·.1 == Key.integer (Int64.ofNat j)) =
      if k ≤ j then vs[j - k]?.map fun v => (Key.integer (Int64.ofNat j), v) else none := by
  induction vs generalizing k with
  | nil => simp
  | cons v vs ih =>
    rw [List.length_cons] at hk
    have hshift : (fun i (w : Value) => (Key.integer (Int64.ofNat (i + 1 + k)), w)) =
        fun i w => (Key.integer (Int64.ofNat (i + (k + 1))), w) := by
      funext i w
      rw [Nat.add_assoc, Nat.add_comm 1 k]
    have hsame : Key.integer (Int64.ofNat k) = .integer (Int64.ofNat j) ↔ k = j :=
      integer_ofNat_inj (by omega) hj
    rw [List.mapIdx_cons, find_cons, Nat.zero_add, hshift, ih (by omega)]
    by_cases hfirst : k = j
    · subst hfirst
      rw [if_pos rfl, if_pos (Nat.le_refl k), Nat.sub_self]
      rfl
    · rw [if_neg (mt hsame.mp hfirst)]
      by_cases hlater : k + 1 ≤ j
      · obtain ⟨m, rfl⟩ : ∃ m, j = k + 1 + m := ⟨j - (k + 1), by omega⟩
        rw [if_pos hlater, if_pos (by omega), Nat.add_sub_cancel_left,
          show k + 1 + m - k = m + 1 by omega, List.getElem?_cons_succ]
      · rw [if_neg hlater, if_neg (by omega)]

/-- A table that was made of values lists them. -/
theorem lists_of_entries {t : Table} {vs : List Value}
    (hentries : t.entries = vs.mapIdx fun i v => (Key.integer (Int64.ofNat (i + 1)), v))
    (hshort : 2 * vs.length < listBound) (hslots : 2 * t.slots < listBound)
    (hpresent : ∀ v ∈ vs, v ≠ .nil) : t.Lists vs := by
  refine ⟨hshort, hslots, hpresent, fun i hi => ?_⟩
  unfold under?
  rw [hentries, find_numbered vs hi (by unfold listBound at hshort ⊢; omega), if_pos (by omega),
    Nat.add_sub_cancel]
  cases vs[i]? <;> rfl

end Table

/-! ## Taking a value out of a list -/

/-- What stands under the whole numbers of a table from one on. -/
def Table.Items (t : Table) (f : Nat → Option Value) : Prop :=
  ∀ i, i + 1 < listBound → t.under? (.integer (Int64.ofNat (i + 1))) = f i

/-- A write under a whole number changes one item. -/
theorem Vm.items_write {vm : Vm} {ref i : Nat} {f : Nat → Option Value} (v : Value)
    (href : ref < vm.tables.size) (hi : i + 1 < listBound) (h : (vm.table ref).Items f) :
    ((vm.write ref (.integer (Int64.ofNat (i + 1))) v).table ref).Items fun j =>
      if i = j then v.present? else f j := by
  intro j hj
  rw [under?_write, h j hj]
  dsimp only
  by_cases hij : i = j
  · rw [if_pos ⟨⟨rfl, by rw [hij]⟩, href⟩, if_pos hij]
  · have hkey : ¬ Key.integer (Int64.ofNat (i + 1)) = .integer (Int64.ofNat (j + 1)) := by
      rw [integer_ofNat_inj hi hj]
      omega
    rw [if_neg fun hwritten => hkey hwritten.1.2, if_neg hij]

section

variable (vm₀ : Vm) {kept : Nat → Key → Prop} {ref : Nat}

/-- A machine that agrees with another on the keys that are kept, and has these items in a table. -/
def Vm.Holding (vm₀ : Vm) (kept : Nat → Key → Prop) (ref : Nat) (f : Nat → Option Value)
    (vm : Vm) : Prop :=
  vm₀.Agree kept vm ∧ ref < vm.tables.size ∧ (vm.table ref).Items f

variable (hkept : ∀ i, ¬ kept ref (.integer i))

include hkept

/-- A value is put under a whole number. -/
theorem yields_rawSet_item {f : Nat → Option Value} {i : Nat} (hi : i + 1 < listBound)
    (v : Value) :
    Yields (vm₀.Holding kept ref f) (Machine.rawSet ref (.integer (Int64.ofNat (i + 1))) v)
      fun _ => vm₀.Holding kept ref fun j => if i = j then v.present? else f j := by
  refine yields_of_run fun vm hvm => ⟨(), _, run_rawSet _ _ v vm, ?_⟩
  obtain ⟨hagree, href, hitems⟩ := hvm
  refine ⟨hagree.trans (.write (hkept _) vm v), ?_, Vm.items_write v href hi hitems⟩
  rwa [Vm.size_write]

/-- Each of the places that are moved to gets the item behind it. The induction is on the number of
moves; `f` is what stands in the table when the rest of them begins. -/
theorem yields_moveForward (count : Nat) {f : Nat → Option Value} {i : Nat}
    (hbound : i + 1 + count < listBound) (hpresent : ∀ j, f j ≠ some .nil) :
    Yields (vm₀.Holding kept ref f) (moveForward ref count (i + 1)) fun _ =>
      vm₀.Holding kept ref fun j => if i ≤ j ∧ j < i + count then f (j + 1) else f j := by
  induction count generalizing f i with
  | zero =>
    refine yields_pure fun vm hvm => ?_
    have hsame : (fun j => if i ≤ j ∧ j < i + 0 then f (j + 1) else f j) = f := by
      funext j
      rw [if_neg (by omega)]
    rw [hsame]
    exact hvm
  | succ count ih =>
    let g : Nat → Option Value := fun j => if i = j then f (i + 1) else f j
    have hread : Yields (vm₀.Holding kept ref f)
        (Machine.rawGet ref (.integer (Int64.ofNat (i + 1 + 1)))) fun v vm =>
          vm₀.Holding kept ref f vm ∧ v.present? = f (i + 1) := by
      refine yields_of_run fun vm hvm => ⟨_, vm, run_rawGet ref _ vm, hvm, ?_⟩
      rw [Table.get_eq_under?, hvm.2.2 (i + 1) (by omega)]
      cases hitem : f (i + 1) with
      | none => rfl
      | some v =>
        refine Value.present?_of_ne fun hnil : v = .nil => hpresent (i + 1) ?_
        rw [hitem, hnil]
    have hmoved : ∀ v : Value, v.present? = f (i + 1) → Yields (vm₀.Holding kept ref f)
        (Machine.rawSet ref (.integer (Int64.ofNat (i + 1))) v) fun _ =>
          vm₀.Holding kept ref g := by
      intro v hv
      have hset := yields_rawSet_item vm₀ hkept (f := f) (i := i) (by omega) v
      rwa [hv] at hset
    have hrest := ih (f := g) (i := i + 1) (by omega) fun j => by
      dsimp only [g]
      split
      · exact hpresent (i + 1)
      · exact hpresent j
    have hshape : (fun j => if i + 1 ≤ j ∧ j < i + 1 + count then g (j + 1) else g j) =
        fun j => if i ≤ j ∧ j < i + (count + 1) then f (j + 1) else f j := by
      funext j
      dsimp only [g]
      by_cases hfirst : i = j
      · subst hfirst
        rw [if_neg (by omega), if_pos rfl, if_pos (by omega)]
      · by_cases hlater : i + 1 ≤ j ∧ j < i + 1 + count
        · rw [if_pos hlater, if_neg (by omega), if_pos (by omega)]
        · rw [if_neg hlater, if_neg hfirst, if_neg (by omega)]
    rw [hshape] at hrest
    unfold moveForward
    refine yields_bind_of_fact hread fun v hv => ?_
    exact yields_bind (hmoved v hv) fun _ => hrest

/-- A value is taken out of a list. -/
theorem yields_removeAt (vs : List Value) {i : Nat} (hi : i < vs.length) :
    Yields (fun vm => vm₀.Agree kept vm ∧ (vm.table ref).Lists vs) (removeAt ref (i + 1))
      fun _ vm => vm₀.Agree kept vm ∧ (vm.table ref).Lists (vs.eraseIdx i) := by
  intro vm a vm' hvm hrun
  obtain ⟨hagree, hlists⟩ := hvm
  have hshort := hlists.short
  have hbound : vs.length < listBound := by omega
  have hpresent : ∀ j : Nat, vs[j]? ≠ some .nil := by
    intro j hj
    exact hlists.present .nil (List.mem_of_getElem? hj) rfl
  have hholding : vm₀.Holding kept ref (vs[·]?) vm := by
    refine ⟨hagree, ?_, hlists.under⟩
    -- A table that does not exist would list nothing.
    refine Nat.lt_of_not_le fun hout => ?_
    have hnone : vm.table ref = .empty := by
      unfold Store.table
      rw [Array.getElem?_eq_none hout]
      rfl
    have hitem := hlists.under i (by omega)
    rw [hnone, List.getElem?_eq_getElem hi] at hitem
    cases hitem
  have hmoved := yields_moveForward vm₀ hkept (vs.length - (i + 1)) (f := (vs[·]?)) (i := i)
    (by omega) hpresent
  -- The last place is left over when the others have been moved to.
  obtain ⟨last, hlast⟩ : ∃ last, vs.length = last + 1 := ⟨vs.length - 1, by omega⟩
  have hemptied := yields_rawSet_item vm₀ hkept (i := last)
    (f := fun j => if i ≤ j ∧ j < i + (vs.length - (i + 1)) then vs[j + 1]? else vs[j]?)
    (by omega) .nil
  have hall := yields_bind hmoved fun _ => hemptied
  unfold removeAt at hrun
  rw [run_bind_of_ok (run_get vm)] at hrun
  dsimp only at hrun
  rw [hlists.length_eq, if_neg (by omega)] at hrun
  rw [← hlast] at hall
  obtain ⟨hagree', -, hitems⟩ := hall vm a vm' hholding hrun
  refine ⟨hagree', ?_, ?_, ?_, ?_⟩
  · rw [List.length_eraseIdx_of_lt hi]
    omega
  · rw [hagree'.slots, ← hagree.slots]
    exact hlists.slots
  · intro v hv
    exact hlists.present v (List.mem_of_mem_eraseIdx hv)
  · intro j hj
    rw [hitems j hj, List.getElem?_eraseIdx]
    dsimp only
    by_cases hfront : j < i
    · rw [if_neg (by omega), if_neg (by omega), if_pos hfront]
    · rw [if_neg hfront]
      by_cases hend : last = j
      · rw [if_pos hend, List.getElem?_eq_none (by omega)]
        rfl
      · rw [if_neg hend]
        by_cases hmid : j < last
        · rw [if_pos (by omega)]
        · rw [if_neg (by omega), List.getElem?_eq_none (by omega),
            List.getElem?_eq_none (by omega)]

/-- The third and the fourth value are taken off a list, as far as there are such. -/
theorem yields_removeNativeSearchers (vs : List Value) :
    Yields (fun vm => vm₀.Agree kept vm ∧ (vm.table ref).Lists vs) (removeNativeSearchers ref)
      fun _ vm => vm₀.Agree kept vm ∧ (vm.table ref).Lists (vs.take 2 ++ vs.drop 4) := by
  intro vm a vm' hvm hrun
  have hlength := hvm.2.length_eq
  unfold removeNativeSearchers at hrun
  rw [run_bind_of_ok (run_get vm)] at hrun
  dsimp only at hrun
  rw [hlength] at hrun
  by_cases hfour : 4 ≤ vs.length
  · have herased : (vs.eraseIdx 3).eraseIdx 2 = vs.take 2 ++ vs.drop 4 := by
      rcases vs with _ | ⟨a, _ | ⟨b, _ | ⟨c, _ | ⟨d, rest⟩⟩⟩⟩
      · simp at hfour
      · simp at hfour
      · simp at hfour
      · simp at hfour
      · rfl
    have hthird : 2 < (vs.eraseIdx 3).length := by
      rw [List.length_eraseIdx_of_lt (by omega)]
      omega
    have hboth := yields_bind (yields_removeAt vm₀ hkept vs (i := 3) (by omega))
      fun _ => yields_removeAt vm₀ hkept (vs.eraseIdx 3) hthird
    rw [if_pos (by omega), if_pos (by omega)] at hrun
    rw [← herased]
    exact hboth vm a vm' hvm hrun
  · rw [if_neg (by omega)] at hrun
    have hdrop : vs.drop 4 = [] := List.drop_eq_nil_of_le (by omega)
    rw [hdrop, List.append_nil]
    by_cases hthree : 3 ≤ vs.length
    · have herased : vs.eraseIdx 2 = vs.take 2 := by
        rw [List.eraseIdx_eq_take_drop_succ, List.drop_eq_nil_of_le (by omega), List.append_nil]
      rw [if_pos (by omega)] at hrun
      rw [← herased]
      exact yields_removeAt vm₀ hkept vs (by omega) vm a vm' hvm hrun
    · rw [if_neg (by omega)] at hrun
      cases hrun
      rw [List.take_of_length_le (by omega)]
      exact hvm

end

end EventScripts.Script
