import EventScripts.Proofs.NativeCalls
import Mathlib.Algebra.Group.Int.Defs
import Mathlib.Algebra.Group.Nat.Defs
import Mathlib.Data.List.Perm.Basic

/-!
# The bit library as arithmetic of 64 bits

A join of any number of integers works on each bit by itself: a bit of the result says of the same
bit of the arguments that all, that some or that an odd number of them are set. It does not depend
on the order of the arguments, and parts of them can be joined first.

A shift is a product or a quotient by a power of two. The program treats counts of 64 and more
apart, since the shifts of the processor see the last six bits of a count only. The shifts of bit
vectors take any count, and with these it is one equation for every count.
-/

set_option autoImplicit false

namespace EventScripts

namespace Bits

/-- The bit of an integer at a place, counted from the lowest one. -/
def bit (i : Nat) (x : Int64) : Bool := x.toBitVec.getLsbD i

/-! ## Joins -/

section

variable {op : Int64 → Int64 → Int64} {unit : Int64}

/-- Parts of the arguments can be joined first, also where a part is empty. -/
theorem foldl_append_parts [Std.Associative op] [Std.LawfulIdentity op unit]
    (xs ys : List Int64) :
    (xs ++ ys).foldl op unit = [xs.foldl op unit, ys.foldl op unit].foldl op unit := by
  have hleft : op unit (xs.foldl op unit) = xs.foldl op unit := Std.LawfulLeftIdentity.left_id _
  have hright : op (xs.foldl op unit) unit = xs.foldl op unit := Std.LawfulRightIdentity.right_id _
  calc (xs ++ ys).foldl op unit
      = ys.foldl op (op (xs.foldl op unit) unit) := by rw [List.foldl_append, hright]
    _ = op (xs.foldl op unit) (ys.foldl op unit) := List.foldl_assoc
    _ = [xs.foldl op unit, ys.foldl op unit].foldl op unit := by
      simp only [List.foldl_cons, List.foldl_nil, hleft]

/-- A join of integers whose operation works on each bit by itself does so too. -/
theorem bit_foldl {i : Nat} {f : Bool → Bool → Bool}
    (h : ∀ x y, bit i (op x y) = f (bit i x) (bit i y)) (xs : List Int64) :
    bit i (xs.foldl op unit) = (xs.map (bit i)).foldl f (bit i unit) := by
  rw [List.foldl_map]
  exact (List.foldl_hom (bit i) fun x y => (h x y).symm).symm

end

/-! What the joins of truth values say, which the bits of a join come to. -/

/-- A conjunction is true if all of its parts are. -/
theorem foldl_and (bs : List Bool) (b : Bool) : bs.foldl and b = (b && bs.all id) := by
  induction bs generalizing b with
  | nil => simp
  | cons c bs ih => rw [List.foldl_cons, ih, List.all_cons, id, Bool.and_assoc]

/-- A disjunction is true if some of its parts are. -/
theorem foldl_or (bs : List Bool) (b : Bool) : bs.foldl or b = (b || bs.any id) := by
  induction bs generalizing b with
  | nil => simp
  | cons c bs ih => rw [List.foldl_cons, ih, List.any_cons, id, Bool.or_assoc]

/-- An exclusive disjunction is true if an odd number of its parts are. -/
theorem foldl_xor (bs : List Bool) (b : Bool) :
    bs.foldl Bool.xor b = (b ^^ decide (bs.count true % 2 = 1)) := by
  induction bs generalizing b with
  | nil => simp
  | cons c bs ih =>
    rw [List.foldl_cons, ih]
    cases c with
    | false => simp
    | true =>
      have hparity : (bs.count true + 1) % 2 = 1 ↔ ¬ bs.count true % 2 = 1 := by omega
      rw [List.count_cons_self, decide_eq_decide.mpr hparity, Bool.xor_assoc, Bool.true_xor,
        decide_not]

/-- A bit of all integers joined by "and" is set if it is set in all of them. -/
theorem bit_bandAll {i : Nat} (hi : i < 64) (xs : List Int64) :
    bit i (bandAll xs) = (xs.map (bit i)).all id := by
  have hunit : bit i (-1) = true := by
    show (~~~(0 : Int64)).toBitVec.getLsbD i = true
    rw [Int64.toBitVec_not, BitVec.getLsbD_not]
    simp [hi]
  unfold bandAll
  rw [bit_foldl (f := and) (fun x y => by simp [bit]), hunit, foldl_and, Bool.true_and]

/-- A bit of all integers joined by "or" is set if it is set in one of them. -/
theorem bit_borAll (i : Nat) (xs : List Int64) :
    bit i (borAll xs) = (xs.map (bit i)).any id := by
  have hunit : bit i 0 = false := by simp [bit]
  unfold borAll
  rw [bit_foldl (f := or) (fun x y => by simp [bit]), hunit, foldl_or, Bool.false_or]

/-- A bit of all integers joined by exclusive "or" is set if it is set in an odd number of them. -/
theorem bit_bxorAll (i : Nat) (xs : List Int64) :
    bit i (bxorAll xs) = decide ((xs.map (bit i)).count true % 2 = 1) := by
  have hunit : bit i 0 = false := by simp [bit]
  unfold bxorAll
  rw [bit_foldl (f := Bool.xor) (fun x y => by simp [bit]), hunit, foldl_xor, Bool.false_xor]

/-- Turning over every bit, as arithmetic. -/
theorem toInt_bnot (x : Int64) : (bnot x).toInt = -x.toInt - 1 := by
  have hlow : -2 ^ 63 ≤ x.toInt := Int64.le_toInt x
  have hhigh : x.toInt < 2 ^ 63 := Int64.toInt_lt x
  unfold bnot
  rw [Int64.toInt_not, Int.bmod_eq_of_le] <;> omega

/-- Turning over every bit exchanges the first two joins. -/
theorem bnot_bandAll (xs : List Int64) : bnot (bandAll xs) = borAll (xs.map bnot) := by
  have hjoin : ∀ x y : Int64, bnot x ||| bnot y = bnot (x &&& y) := fun x y =>
    Int64.toBitVec_inj.mp (by simp [bnot, BitVec.not_and])
  unfold bandAll borAll
  rw [List.foldl_map]
  exact (List.foldl_hom bnot hjoin).symm

/-! ## Shifts -/

/-- A count of 32 bits has no sign among 64 bits. -/
theorem toInt_toBitVec_count (n : UInt32) : n.toUInt64.toBitVec.toInt = n.toNat := by
  have hlt : n.toNat < 2 ^ 32 := n.toNat_lt
  rw [BitVec.toInt_eq_toNat_of_lt]
  · simp
  · simp
    omega

/-- Below 64 a count is the one that the shifts of 64-bit integers take. -/
theorem smod_count {n : UInt32} (hn : n.toNat < 64) :
    n.toUInt64.toInt64.toBitVec.smod 64 = n.toUInt64.toBitVec := by
  apply BitVec.eq_of_toInt_eq
  rw [BitVec.toInt_smod, UInt64.toBitVec_toInt64, toInt_toBitVec_count]
  show Int.fmod _ 64 = _
  rw [Int.fmod_eq_emod_of_nonneg _ (by omega)]
  omega

/-- A count is less than 64 as a word if it is as a number. -/
theorem lt_iff_toNat (n : UInt32) : n < 64 ↔ n.toNat < 64 := by
  rw [UInt32.lt_iff_toNat_lt]
  rfl

/-- A shift to the left, as one of bit vectors for every count. -/
theorem toBitVec_shl (x : Int64) (n : UInt32) :
    (shl x n).toBitVec = x.toBitVec <<< n.toNat := by
  unfold shl
  split <;> rename_i hn <;> rw [lt_iff_toNat] at hn
  · rw [Int64.toBitVec_shiftLeft, smod_count hn, BitVec.shiftLeft_eq']
    simp
  · rw [BitVec.shiftLeft_eq_zero (by omega)]
    rfl

/-- A shift to the right with zeros, as one of bit vectors for every count. -/
theorem toBitVec_shr (x : Int64) (n : UInt32) :
    (shr x n).toBitVec = x.toBitVec >>> n.toNat := by
  unfold shr
  split <;> rename_i hn <;> rw [lt_iff_toNat] at hn
  · rw [UInt64.toBitVec_toInt64, UInt64.toBitVec_shiftRight, BitVec.ushiftRight_eq']
    simp
    rw [Nat.mod_eq_of_lt hn]
  · rw [BitVec.ushiftRight_eq_zero (by omega)]
    rfl

/-- From 63 on only the sign is left. -/
theorem sshiftRight_of_le (x : BitVec 64) {n : Nat} (hn : 63 ≤ n) :
    x.sshiftRight n = x.sshiftRight 63 := by
  have hbit : ∀ m i : Nat, 63 ≤ m →
      (if m + i < 64 then x.getLsbD (m + i) else x.msb) = x.msb := by
    intro m i hm
    split
    · obtain ⟨rfl, rfl⟩ : m = 63 ∧ i = 0 := by omega
      rw [BitVec.msb_eq_getLsbD_last]
    · rfl
  apply BitVec.eq_of_getLsbD_eq
  intro i _
  rw [BitVec.getLsbD_sshiftRight, BitVec.getLsbD_sshiftRight, hbit n i hn, hbit 63 i (by omega)]

/-- A shift to the right with the sign, as one of bit vectors for every count. -/
theorem toBitVec_ashr (x : Int64) (n : UInt32) :
    (ashr x n).toBitVec = x.toBitVec.sshiftRight n.toNat := by
  have hmin : (min n 63).toNat = min n.toNat 63 := UInt32.toNat_min n 63
  unfold ashr
  rw [Int64.toBitVec_shiftRight, smod_count (by omega), BitVec.sshiftRight',
    UInt64.toNat_toBitVec, UInt32.toNat_toUInt64, hmin]
  by_cases hn : n.toNat ≤ 63
  · rw [Nat.min_eq_left hn]
  · rw [Nat.min_eq_right (by omega), sshiftRight_of_le _ (by omega : 63 ≤ n.toNat)]

/-! ## Shifts as arithmetic -/

/-- The integer that the bits are without a sign. -/
theorem toNat_toBitVec (x : Int64) : (x.toBitVec.toNat : Int) = x.toInt % 2 ^ 64 := by
  have hlt := x.toBitVec.isLt
  have hmod : x.toInt % ((2 ^ 64 : Nat) : Int) = x.toBitVec.toNat % ((2 ^ 64 : Nat) : Int) := by
    rw [← Int64.toInt_toBitVec, BitVec.toInt_eq_toNat_bmod, Int.bmod_emod]
  omega

/-- A shift to the left multiplies, and the product is read as an integer of 64 bits again. -/
theorem toInt_shl (x : Int64) (n : UInt32) :
    (shl x n).toInt = (x.toInt * 2 ^ n.toNat).bmod (2 ^ 64) := by
  rw [← Int64.toInt_toBitVec, toBitVec_shl, BitVec.toInt_shiftLeft, Nat.shiftLeft_eq,
    ← Int64.toInt_toBitVec x, BitVec.toInt_eq_toNat_bmod, Int.bmod_mul_bmod]
  push_cast
  rfl

/-- A shift to the right with zeros divides the integer without its sign. -/
theorem toInt_shr (x : Int64) (n : UInt32) :
    (shr x n).toInt = (x.toInt % 2 ^ 64 / 2 ^ n.toNat).bmod (2 ^ 64) := by
  rw [← Int64.toInt_toBitVec, toBitVec_shr, BitVec.toInt_eq_toNat_bmod, BitVec.toNat_ushiftRight,
    Nat.shiftRight_eq_div_pow, ← toNat_toBitVec]
  push_cast
  rfl

/-- A shift to the right with the sign divides the integer. -/
theorem toInt_ashr (x : Int64) (n : UInt32) :
    (ashr x n).toInt = x.toInt.fdiv (2 ^ n.toNat) := by
  rw [← Int64.toInt_toBitVec, toBitVec_ashr, BitVec.toInt_sshiftRight, Int.shiftRight_eq_div_pow,
    Int64.toInt_toBitVec, Int.fdiv_eq_ediv_of_nonneg _ (Int.pow_nonneg (by decide))]
  simp only [Int.natCast_pow]
  rfl

example : Bits.ashr (-8) 70 = -1 := by decide

/-- Two counts together are their sum where it still is a count. -/
theorem toNat_add_count {m n : UInt32} (h : m.toNat + n.toNat < UInt32.size) :
    (m + n).toNat = m.toNat + n.toNat := by
  rw [UInt32.toNat_add]
  exact Nat.mod_eq_of_lt h

end Bits

namespace Script

/-! ## Calls of the functions -/

/-- A count of places to shift by, as a script gives it. -/
def Value.count (n : UInt32) : Value := .integer n.toUInt64.toInt64

/-- A count is below the bound of counts. -/
@[simp] theorem toNat?_count (n : UInt32) :
    Value.toNat? UInt32.size (.count n) = some n.toNat := by
  have hlt := n.toNat_lt_size
  have hcount : n.toUInt64.toInt64.toInt = n.toNat := by
    rw [← Int64.toInt_toBitVec, UInt64.toBitVec_toInt64, Bits.toInt_toBitVec_count]
  have hrange : (0 ≤ (n.toNat : Int) && (n.toNat : Int) < (UInt32.size : Nat)) = true := by
    rw [Bool.and_eq_true, decide_eq_true_iff, decide_eq_true_iff]
    omega
  unfold Value.toNat?
  show (if 0 ≤ n.toUInt64.toInt64.toInt && n.toUInt64.toInt64.toInt < (UInt32.size : Nat) then
    some n.toUInt64.toInt64.toInt.toNat else none) = _
  rw [hcount, if_pos hrange, Int.toNat_natCast]

/-- Integers are taken as they are. -/
theorem run_integerArguments (site : Site) (xs : List Int64) (vm : Vm) :
    Machine.run (integerArguments site (xs.map .integer)) vm = (.ok xs, vm) := by
  have hxs : (xs.map Value.integer).mapM Value.toInt64? = some xs := by
    induction xs with
    | nil => rfl
    | cons x xs ih =>
      rw [List.map_cons, List.mapM_cons, toInt64?_integer, ih]
      rfl
  unfold integerArguments
  rw [hxs]
  exact Machine.run_pure xs vm

namespace BitFunction

/-- A function of the library gives an integer for its arguments, whoever calls it, and leaves the
machine as it is. -/
def Gives (f : BitFunction) (args : List Value) (r : Int64) : Prop :=
  ∀ (call : Caller) (site : Site) (vm : Vm),
    Machine.run ((Native.bit f).run call site args) vm = (.ok [.integer r], vm)

/-- What holds of a join: neither the order of the arguments nor which parts are joined first makes
a difference, and each bit of the result is what is said of the same bit of the arguments. -/
structure Joins (f : BitFunction) (op : List Int64 → Int64) (said : List Bool → Bool) : Prop where
  gives : ∀ xs : List Int64, f.Gives (xs.map .integer) (op xs)
  of_perm : ∀ xs ys : List Int64, xs.Perm ys → op xs = op ys
  of_append : ∀ xs ys : List Int64, op (xs ++ ys) = op [op xs, op ys]
  bits : ∀ (xs : List Int64) (i : Nat), i < 64 →
    Bits.bit i (op xs) = said (xs.map (Bits.bit i))

/-- What holds of a shift: it is a function of the integer and the count, and two shifts are one by
both counts together. -/
structure Shifts (f : BitFunction) (op : Int64 → UInt32 → Int64) (value : Int → Nat → Int) :
    Prop where
  gives : ∀ (x : Int64) (n : UInt32), f.Gives [.integer x, .count n] (op x n)
  value_eq : ∀ (x : Int64) (n : UInt32), (op x n).toInt = value x.toInt n.toNat
  twice : ∀ (x : Int64) (m n : UInt32), m.toNat + n.toNat < UInt32.size →
    op (op x m) n = op x (m + n)

/-- A function that joins its arguments from an integer that changes nothing. -/
theorem joins_foldl {f : BitFunction} {op : Int64 → Int64 → Int64} {unit : Int64}
    {said : List Bool → Bool} [Std.Associative op] [Std.Commutative op]
    [Std.LawfulCommIdentity op unit]
    (hrun : ∀ site args, f.run site args = do
      return [.integer ((← integerArguments site args).foldl op unit)])
    (hbits : ∀ (xs : List Int64) (i : Nat), i < 64 →
      Bits.bit i (xs.foldl op unit) = said (xs.map (Bits.bit i))) :
    f.Joins (fun xs => xs.foldl op unit) said where
  gives xs call site vm := by
    show Machine.run (f.run site _) vm = _
    rw [hrun, Machine.run_bind_of_ok (run_integerArguments site xs vm)]
    rfl
  of_perm xs ys h := h.foldl_eq unit
  of_append xs ys := Bits.foldl_append_parts xs ys
  bits := hbits

/-- A function that shifts its first argument by its second one. -/
theorem shifts_of_toBitVec {f : BitFunction} {op : Int64 → UInt32 → Int64}
    {shift : BitVec 64 → Nat → BitVec 64} {value : Int → Nat → Int}
    (hrun : ∀ site args, f.run site args = do
      let x ← converted site args 1 Value.toInt64?
      let n ← converted site args 2 (Value.toNat? UInt32.size)
      pure [Value.integer (op x (UInt32.ofNat n))])
    (hshift : ∀ x n, (op x n).toBitVec = shift x.toBitVec n.toNat)
    (htwice : ∀ x m n, shift (shift x m) n = shift x (m + n))
    (hvalue : ∀ x n, (op x n).toInt = value x.toInt n.toNat) :
    f.Shifts op value where
  gives x n call site vm := by
    show Machine.run (f.run site _) vm = _
    rw [hrun,
      Machine.run_bind_of_ok (run_converted (a := x) (toInt64?_integer x) site vm),
      Machine.run_bind_of_ok (run_converted (a := n.toNat) (toNat?_count n) site vm),
      UInt32.ofNat_toNat]
    rfl
  value_eq := hvalue
  twice x m n h := by
    apply Int64.toBitVec_inj.mp
    rw [hshift, hshift, hshift, htwice, Bits.toNat_add_count h]

end BitFunction

/-- The bit library is arithmetic of integers of 64 bits in two's complement. The joins do not
depend on the order of their arguments, join parts first, and are exchanged by turning over every
bit. Every shift is arithmetic on the integer, for every count. -/
theorem bit_library_is_two_complement_arithmetic :
    BitFunction.band.Joins Bits.bandAll (List.all · id) ∧
    BitFunction.bor.Joins Bits.borAll (List.any · id) ∧
    BitFunction.bxor.Joins Bits.bxorAll (fun bs => decide (bs.count true % 2 = 1)) ∧
    (∀ x : Int64, BitFunction.bnot.Gives [.integer x] (Bits.bnot x)) ∧
    (∀ x : Int64, (Bits.bnot x).toInt = -x.toInt - 1) ∧
    (∀ xs : List Int64, Bits.bnot (Bits.bandAll xs) = Bits.borAll (xs.map Bits.bnot)) ∧
    BitFunction.shl.Shifts Bits.shl (fun x n => (x * 2 ^ n).bmod (2 ^ 64)) ∧
    BitFunction.shr.Shifts Bits.shr (fun x n => (x % 2 ^ 64 / 2 ^ n).bmod (2 ^ 64)) ∧
    BitFunction.ashr.Shifts Bits.ashr (fun x n => x.fdiv (2 ^ n)) := by
  refine ⟨?_, ?_, ?_, ?_, Bits.toInt_bnot, Bits.bnot_bandAll, ?_, ?_, ?_⟩
  · exact BitFunction.joins_foldl (fun _ _ => rfl) fun xs _ hi => Bits.bit_bandAll hi xs
  · exact BitFunction.joins_foldl (fun _ _ => rfl) fun xs i _ => Bits.bit_borAll i xs
  · exact BitFunction.joins_foldl (fun _ _ => rfl) fun xs i _ => Bits.bit_bxorAll i xs
  · intro x call site vm
    exact Machine.run_bind_of_ok (run_converted (toInt64?_integer x) site vm) _
  · exact BitFunction.shifts_of_toBitVec (fun _ _ => rfl) Bits.toBitVec_shl
      (fun x m n => (BitVec.shiftLeft_add x m n).symm) Bits.toInt_shl
  · exact BitFunction.shifts_of_toBitVec (fun _ _ => rfl) Bits.toBitVec_shr
      (fun x m n => (BitVec.shiftRight_add x m n).symm) Bits.toInt_shr
  · exact BitFunction.shifts_of_toBitVec (fun _ _ => rfl) Bits.toBitVec_ashr
      (fun x m n => BitVec.sshiftRight_add.symm) Bits.toInt_ashr

end Script

end EventScripts
