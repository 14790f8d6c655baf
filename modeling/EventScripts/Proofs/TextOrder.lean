import Mathlib.Data.List.Lex
import Mathlib.Data.String.Basic
import EventScripts.Proofs.TextBytes
import EventScripts.Text.Order

/-!
# Texts are in the order of their bytes

Texts are ordered by the numbers of their characters. UTF-8 keeps this order: a character with a
greater number has as many bytes or more, the first byte is the greater one where there are more,
and where there are as many the bits of the number are written from the highest on. So the order of
two texts is that of their byte strings, and a text begins with another one exactly if its bytes
begin with the other's.
-/

set_option autoImplicit false

namespace EventScripts

/-- Characters are compared as lists are. -/
theorem charsLe_iff (cs ds : List Char) : charsLe cs ds = true ↔ ¬ ds < cs := by
  induction cs generalizing ds with
  | nil => simp [charsLe]
  | cons c cs ih =>
    cases ds with
    | nil => simp [charsLe]
    | cons d ds =>
      rw [charsLe, Bool.or_eq_true, Bool.and_eq_true, ih, List.cons_lt_cons_iff]
      rcases lt_trichotomy c d with hlt | rfl | hgt
      · simp [hlt, hlt.ne', hlt.le]
      · simp
      · simp [hgt, hgt.ne', hgt.le]

/-- Texts are compared as strings are. -/
theorem textLe_iff (s t : String) : textLe s t = true ↔ s ≤ t := by
  rw [← not_lt, String.lt_iff_toList_lt]
  exact charsLe_iff s.toList t.toList

/-! ## Bytes in order -/

namespace Utf8

/-- The first bytes decide on the order, if they differ. -/
theorem ofNat_cons_lt_iff {m n : Nat} (hm : m < 256) (hn : n < 256) (s t : Bytes) :
    UInt8.ofNat m :: s < UInt8.ofNat n :: t ↔ m < n ∨ m = n ∧ s < t := by
  rw [List.cons_lt_cons_iff, UInt8.lt_iff_toNat_lt, ← UInt8.toNat_inj, toNat_ofNat_byte hm,
    toNat_ofNat_byte hn]

/-- The bytes of a character come before those of one with a greater number, whatever follows. -/
theorem utf8EncodeChar_append_lt {a b : Char} (h : a < b) (s t : Bytes) :
    String.utf8EncodeChar a ++ s < String.utf8EncodeChar b ++ t := by
  have hlt : a.val.toNat < b.val.toNat := h
  have hbound : b.val.toNat < 0x110000 := by
    have hvalid : b.val.toNat < 0xD800 ∨ 0xDFFF < b.val.toNat ∧ b.val.toNat < 0x110000 := b.valid
    omega
  -- The parts of a number that are its bytes, as digits to the base 64.
  have hthird : ∀ v : Nat, v / 4096 = v / 64 / 64 := by omega
  have hfourth : ∀ v : Nat, v / 262144 = v / 64 / 64 / 64 := by omega
  unfold String.utf8EncodeChar
  dsimp only
  generalize a.val.toNat = m at hlt
  generalize b.val.toNat = n at hlt hbound ⊢
  simp only [hthird, hfourth]
  -- One case for each pair of lengths: the first byte decides if they differ, the digits if not.
  split_ifs <;>
    simp (disch := omega) only [List.cons_append, List.nil_append, ofNat_cons_lt_iff] <;>
    omega

/-- A text that comes before another one does so by its bytes. -/
theorem flatMap_utf8EncodeChar_lt {cs ds : List Char} (h : cs < ds) :
    cs.flatMap String.utf8EncodeChar < ds.flatMap String.utf8EncodeChar := by
  induction h with
  | nil =>
    rename_i d ds
    have hsome : 0 < (String.utf8EncodeChar d).length := by
      rw [String.length_utf8EncodeChar]
      exact d.utf8Size_pos
    obtain ⟨b, bs, hbytes⟩ := List.exists_cons_of_length_pos hsome
    rw [List.flatMap_nil, List.flatMap_cons, hbytes]
    exact List.nil_lt_cons b _
  | rel hlt =>
    rw [List.flatMap_cons, List.flatMap_cons]
    exact utf8EncodeChar_append_lt hlt _ _
  | cons _ ih =>
    rw [List.flatMap_cons, List.flatMap_cons]
    exact List.append_left_lt ih

end Utf8

/-- The bytes of texts are in the order of the texts. -/
theorem textBytes_lt {s t : String} (h : s < t) : textBytes s < textBytes t :=
  Utf8.flatMap_utf8EncodeChar_lt (String.lt_iff_toList_lt.mp h)

/-- A text begins with another one if its bytes begin with the other's, and only then. -/
theorem textBytes_isPrefix_iff (s t : String) :
    textBytes s <+: textBytes t ↔ s.toList <+: t.toList := by
  constructor
  · rintro ⟨rest, hrest⟩
    -- Reading the bytes of both gives back the characters of the first, and more.
    refine ⟨Utf8.lossyFrom none rest, ?_⟩
    rw [← Utf8.lossyFrom_flatMap_append, ← Utf8.lossyFrom_flatMap t.toList]
    exact congrArg (Utf8.lossyFrom none) hrest
  · rintro ⟨rest, hrest⟩
    refine ⟨rest.flatMap String.utf8EncodeChar, ?_⟩
    unfold textBytes
    rw [← List.flatMap_append, hrest]

end EventScripts
