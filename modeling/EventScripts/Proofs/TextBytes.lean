import EventScripts.Bytes.Utf8

/-!
# Texts are read back from their bytes

The bytes of a text are well-formed, so that the strict reading of them does not fail, the lossy one
has nothing to replace, and both give the text. A character has one to four bytes. Its first byte
tells how many follow, and which values the second one may have; the overlong forms and the
surrogates that this rules out are never written.
-/

set_option autoImplicit false

namespace EventScripts

namespace Utf8

/-! ## First bytes -/

/-- A number below 256 is that of its byte. -/
theorem toNat_ofNat_byte {n : Nat} (h : n < 256) : (UInt8.ofNat n).toNat = n :=
  UInt8.toNat_ofNat_of_lt' h

/-- The first byte of a character of one byte is the character. -/
theorem lead_of_one {n : Nat} (h : n < 0x80) : lead (.ofNat n) = .single (Char.ofNat n) := by
  unfold lead
  dsimp only
  rw [toNat_ofNat_byte (by omega), if_pos h]

/-- The first byte of a character of two bytes has its highest bits. -/
theorem lead_of_two {n : Nat} (hlow : 0xC2 ≤ n) (hhigh : n < 0xE0) :
    lead (.ofNat n) = .more ⟨0x80, 0xBF, 0, n - 0xC0⟩ := by
  unfold lead
  dsimp only
  rw [toNat_ofNat_byte (by omega), if_neg (by omega), if_neg (by omega), if_pos hhigh]

/-- The first byte of a character of three bytes. After two of them the second byte has a narrower
range, against overlong forms and surrogates. -/
theorem lead_of_three {n : Nat} (hlow : 0xE0 ≤ n) (hhigh : n < 0xF0) :
    ∃ p, lead (.ofNat n) = .more p ∧ p.after = 1 ∧ p.bits = n - 0xE0 ∧
      p.low.toNat = (if n = 0xE0 then 0xA0 else 0x80) ∧
      p.high.toNat = if n = 0xED then 0x9F else 0xBF := by
  unfold lead
  dsimp only
  rw [toNat_ofNat_byte (by omega), if_neg (by omega), if_neg (by omega), if_neg (by omega)]
  by_cases hfirst : n = 0xE0
  · subst hfirst
    exact ⟨_, rfl, rfl, rfl, rfl, rfl⟩
  · by_cases hsurrogates : n = 0xED
    · subst hsurrogates
      exact ⟨_, rfl, rfl, rfl, rfl, rfl⟩
    · rw [if_neg hfirst, if_neg hsurrogates, if_pos hhigh, if_neg hfirst, if_neg hsurrogates]
      exact ⟨_, rfl, rfl, rfl, rfl, rfl⟩

/-- The first byte of a character of four bytes. After the least and the greatest of them the second
byte has a narrower range. -/
theorem lead_of_four {n : Nat} (hlow : 0xF0 ≤ n) (hhigh : n < 0xF5) :
    ∃ p, lead (.ofNat n) = .more p ∧ p.after = 2 ∧ p.bits = n - 0xF0 ∧
      p.low.toNat = (if n = 0xF0 then 0x90 else 0x80) ∧
      p.high.toNat = if n = 0xF4 then 0x8F else 0xBF := by
  unfold lead
  dsimp only
  rw [toNat_ofNat_byte (by omega), if_neg (by omega), if_neg (by omega), if_neg (by omega),
    if_neg (by omega), if_neg (by omega), if_neg (by omega)]
  by_cases hfirst : n = 0xF0
  · subst hfirst
    exact ⟨_, rfl, rfl, rfl, rfl, rfl⟩
  · by_cases hlast : n = 0xF4
    · subst hlast
      exact ⟨_, rfl, rfl, rfl, rfl, rfl⟩
    · rw [if_neg hfirst, if_pos (by omega), if_neg hfirst, if_neg hlast]
      exact ⟨_, rfl, rfl, rfl, rfl, rfl⟩

/-! ## The bytes after the first one -/

/-- A byte in the accepted range is accepted and adds its six bits. -/
theorem accepts_ofNat {p : Partial} {n : Nat} (hlow : p.low.toNat ≤ n)
    (hhigh : n ≤ p.high.toNat) :
    p.accepts (.ofNat n) = true ∧ p.push (.ofNat n) = p.bits * 64 + (n - 0x80) := by
  have hbyte : (UInt8.ofNat n).toNat = n :=
    toNat_ofNat_byte (Nat.lt_of_le_of_lt hhigh p.high.toNat_lt)
  unfold Partial.accepts Partial.push
  rw [Bool.and_eq_true, decide_eq_true_iff, decide_eq_true_iff, UInt8.le_iff_toNat_le,
    UInt8.le_iff_toNat_le, hbyte]
  exact ⟨⟨hlow, hhigh⟩, rfl⟩

/-- The bytes spell a character, read from between characters or from inside one. -/
inductive Spells : Option Partial → Bytes → Char → Prop where
  | single {b : UInt8} {c : Char} : lead b = .single c → Spells none [b] c
  | begins {b : UInt8} {p : Partial} {bs : Bytes} {c : Char} :
    lead b = .more p → Spells (some p) bs c → Spells none (b :: bs) c
  | last {p : Partial} {b : UInt8} :
    p.accepts b = true → p.after = 0 → Spells (some p) [b] (Char.ofNat (p.push b))
  | next {p : Partial} {b : UInt8} {k : Nat} {bs : Bytes} {c : Char} :
    p.accepts b = true → p.after = k + 1 → Spells (some (p.next b k)) bs c →
      Spells (some p) (b :: bs) c

/-- A byte in the accepted range goes in front of what spells the rest. -/
theorem Spells.cons {p : Partial} {n k : Nat} {bs : Bytes} {c : Char} (hafter : p.after = k + 1)
    (hlow : p.low.toNat ≤ n) (hhigh : n ≤ p.high.toNat)
    (h : Spells (some ⟨0x80, 0xBF, k, p.bits * 64 + (n - 0x80)⟩) bs c) :
    Spells (some p) (.ofNat n :: bs) c := by
  obtain ⟨haccepts, hpush⟩ := accepts_ofNat hlow hhigh
  refine .next haccepts hafter ?_
  unfold Partial.next
  rwa [hpush]

/-- Behind the second byte of a character every byte `n + 0x80` is in the range. -/
theorem tail_range {n : Nat} (hn : n < 64) :
    (0x80 : UInt8).toNat ≤ n + 0x80 ∧ n + 0x80 ≤ (0xBF : UInt8).toNat := by
  constructor
  · exact Nat.le_add_left _ _
  · show n + 0x80 ≤ 0xBF
    omega

/-- A byte in the accepted range adds six bits; the last one completes the character. -/
theorem spells_lastTail (bits : Nat) {n : Nat} (hn : n < 64) :
    Spells (some ⟨0x80, 0xBF, 0, bits⟩) [.ofNat (n + 0x80)] (Char.ofNat (bits * 64 + n)) := by
  obtain ⟨hlow, hhigh⟩ := tail_range hn
  obtain ⟨haccepts, hpush⟩ := accepts_ofNat (p := ⟨0x80, 0xBF, 0, bits⟩) hlow hhigh
  have hlast := Spells.last haccepts rfl
  rwa [hpush, Nat.add_sub_cancel] at hlast

/-- The same for a byte that is not the last one. -/
theorem spells_nextTail {k bits n : Nat} {bs : Bytes} {c : Char} (hn : n < 64)
    (h : Spells (some ⟨0x80, 0xBF, k, bits * 64 + n⟩) bs c) :
    Spells (some ⟨0x80, 0xBF, k + 1, bits⟩) (.ofNat (n + 0x80) :: bs) c := by
  obtain ⟨hlow, hhigh⟩ := tail_range hn
  refine Spells.cons (p := ⟨0x80, 0xBF, k + 1, bits⟩) rfl hlow hhigh ?_
  rwa [Nat.add_sub_cancel]

/-! ## Characters -/

/-- The bytes of a character by their number: the bits that the first one has, and six bits in each
of the others. -/
theorem spells_two {v : Nat} (hlow : 0x80 ≤ v) (hhigh : v < 0x800) :
    Spells none [.ofNat (v / 64 % 32 + 192), .ofNat (v % 64 + 128)] (Char.ofNat v) := by
  have hbits : (v / 64 % 32 + 192 - 0xC0) * 64 + v % 64 = v := by omega
  refine .begins (lead_of_two (by omega) (by omega)) ?_
  have hlast := spells_lastTail (v / 64 % 32 + 192 - 0xC0) (Nat.mod_lt v (by decide : 64 > 0))
  rwa [hbits] at hlast

/-- A character of three bytes. -/
theorem spells_three {v : Nat} (hlow : 0x800 ≤ v) (hhigh : v < 0x10000)
    (hvalid : v < 0xD800 ∨ 0xDFFF < v) :
    Spells none [.ofNat (v / 4096 % 16 + 224), .ofNat (v / 64 % 64 + 128),
      .ofNat (v % 64 + 128)] (Char.ofNat v) := by
  obtain ⟨p, hlead, hafter, hbits, hleast, hgreatest⟩ :=
    lead_of_three (n := v / 4096 % 16 + 224) (by omega) (by omega)
  have hvalue : (p.bits * 64 + (v / 64 % 64 + 128 - 0x80)) * 64 + v % 64 = v := by
    rw [hbits]
    omega
  -- The second byte is in the narrower range where the first one asks for it.
  have hsecond : p.low.toNat ≤ v / 64 % 64 + 128 ∧ v / 64 % 64 + 128 ≤ p.high.toNat := by
    rw [hleast, hgreatest]
    constructor <;> split <;> omega
  refine .begins hlead (.cons hafter hsecond.1 hsecond.2 ?_)
  have hlast := spells_lastTail (p.bits * 64 + (v / 64 % 64 + 128 - 0x80))
    (Nat.mod_lt v (by decide : 64 > 0))
  rwa [hvalue] at hlast

/-- A character of four bytes. -/
theorem spells_four {v : Nat} (hlow : 0x10000 ≤ v) (hhigh : v < 0x110000) :
    Spells none [.ofNat (v / 262144 % 8 + 240), .ofNat (v / 4096 % 64 + 128),
      .ofNat (v / 64 % 64 + 128), .ofNat (v % 64 + 128)] (Char.ofNat v) := by
  obtain ⟨p, hlead, hafter, hbits, hleast, hgreatest⟩ :=
    lead_of_four (n := v / 262144 % 8 + 240) (by omega) (by omega)
  have hvalue : ((p.bits * 64 + (v / 4096 % 64 + 128 - 0x80)) * 64 + v / 64 % 64) * 64 + v % 64 =
      v := by
    rw [hbits]
    omega
  have hsecond : p.low.toNat ≤ v / 4096 % 64 + 128 ∧ v / 4096 % 64 + 128 ≤ p.high.toNat := by
    rw [hleast, hgreatest]
    constructor <;> split <;> omega
  refine .begins hlead (.cons hafter hsecond.1 hsecond.2
    (spells_nextTail (Nat.mod_lt _ (by decide)) ?_))
  have hlast := spells_lastTail
    ((p.bits * 64 + (v / 4096 % 64 + 128 - 0x80)) * 64 + v / 64 % 64)
    (Nat.mod_lt v (by decide : 64 > 0))
  rwa [hvalue] at hlast

/-- Every character is spelled by its bytes. -/
theorem spells_utf8EncodeChar (c : Char) : Spells none (String.utf8EncodeChar c) c := by
  have hvalid : c.val.toNat < 0xD800 ∨ 0xDFFF < c.val.toNat ∧ c.val.toNat < 0x110000 := c.valid
  have hnumber : c = Char.ofNat c.val.toNat := (Char.ofNat_toNat c).symm
  conv => rhs; rw [hnumber]
  unfold String.utf8EncodeChar
  dsimp only
  generalize c.val.toNat = v at hvalid ⊢
  by_cases hone : v ≤ 0x7F
  · rw [if_pos hone]
    exact .single (lead_of_one (by omega))
  by_cases htwo : v ≤ 0x7FF
  · rw [if_neg hone, if_pos htwo]
    exact spells_two (by omega) (by omega)
  by_cases hthree : v ≤ 0xFFFF
  · rw [if_neg hone, if_neg htwo, if_pos hthree]
    exact spells_three (by omega) (by omega) (hvalid.imp id And.left)
  · rw [if_neg hone, if_neg htwo, if_neg hthree]
    exact spells_four (by omega) (by omega)

/-! ## Both readings of a text -/

/-- Bytes that spell a character are read lossily as this character. -/
theorem lossyFrom_of_spells {p : Option Partial} {bs : Bytes} {c : Char} (h : Spells p bs c)
    (rest : Bytes) : lossyFrom p (bs ++ rest) = c :: lossyFrom none rest := by
  induction h with
  | single hlead =>
    rw [List.singleton_append, lossyFrom, hlead]
  | begins hlead _ ih =>
    rw [List.cons_append, lossyFrom, hlead]
    exact ih
  | last haccepts hafter =>
    rw [List.singleton_append, lossyFrom, if_pos haccepts, hafter]
  | next haccepts hafter _ ih =>
    rw [List.cons_append, lossyFrom, if_pos haccepts, hafter]
    exact ih

/-- Bytes that spell a character are read strictly as this character. -/
theorem readFrom_of_spells {p : Option Partial} {bs : Bytes} {c : Char} (h : Spells p bs c)
    (rest : Bytes) : readFrom p (bs ++ rest) = (readFrom none rest).map (c :: ·) := by
  induction h with
  | single hlead =>
    rw [List.singleton_append, readFrom, hlead]
  | begins hlead _ ih =>
    rw [List.cons_append, readFrom, hlead]
    exact ih
  | last haccepts hafter =>
    rw [List.singleton_append, readFrom, if_pos haccepts, hafter]
  | next haccepts hafter _ ih =>
    rw [List.cons_append, readFrom, if_pos haccepts, hafter]
    exact ih

/-- The bytes of characters are read lossily as these, whatever follows. -/
theorem lossyFrom_flatMap_append (cs : List Char) (rest : Bytes) :
    lossyFrom none (cs.flatMap String.utf8EncodeChar ++ rest) = cs ++ lossyFrom none rest := by
  induction cs with
  | nil => rfl
  | cons c cs ih =>
    rw [List.flatMap_cons, List.append_assoc, lossyFrom_of_spells (spells_utf8EncodeChar c), ih,
      List.cons_append]

/-- The bytes of a text are read lossily as the text. -/
theorem lossyFrom_flatMap (cs : List Char) :
    lossyFrom none (cs.flatMap String.utf8EncodeChar) = cs := by
  have hread := lossyFrom_flatMap_append cs []
  rw [List.append_nil] at hread
  exact hread.trans (List.append_nil cs)

/-- The bytes of a text are read strictly as the text. -/
theorem readFrom_flatMap (cs : List Char) :
    readFrom none (cs.flatMap String.utf8EncodeChar) = some cs := by
  induction cs with
  | nil => rfl
  | cons c cs ih =>
    rw [List.flatMap_cons, readFrom_of_spells (spells_utf8EncodeChar c), ih]
    rfl

end Utf8

/-- A text is what the lossy reading of its bytes gives. -/
@[simp] theorem lossy_textBytes (s : String) : (textBytes s).lossy = s := by
  unfold Bytes.lossy textBytes
  rw [Utf8.lossyFrom_flatMap, String.ofList_toList]

/-- A text is what the strict reading of its bytes gives. -/
@[simp] theorem text?_textBytes (s : String) : (textBytes s).text? = some s := by
  unfold Bytes.text? textBytes
  rw [Utf8.readFrom_flatMap, Option.map_some, String.ofList_toList]

end EventScripts
