import EventScripts.Proofs.ErrorLines
import EventScripts.Proofs.ProgressArithmetic
import Mathlib.Data.List.Induction
import Mathlib.Data.List.TakeWhile
import Mathlib.Data.Nat.Digits.Defs

/-!
# The grammar of messages that blame a line

A message blames a line if it has one of two beginnings. The line is what the digits behind the
beginning say in decimal: all of them, as far as the run of digits goes. Without a digit, or if the
number has more than 32 bits, line zero is blamed. `MessageBlame` has a constructor for each of
these cases. It knows nothing of how a message is read: digits are the ten ASCII ones, and each of
them counts by its place from the end of the run, while a message is read from the front.

A number is read with 32 bits. `readNumber?` stops where one would be too large for them, or if
there is no digit. The digits behind could not make it smaller, so it stops exactly if the whole
number is too large, and line zero is blamed exactly if it stops or the number is zero.
-/

set_option autoImplicit false

namespace EventScripts

/-! ## The grammar -/

/-- The beginnings of messages that blame a line. -/
inductive EditableStart : String → Prop where
  | plugin : EditableStart "[string \"Plugin\"]:"
  | scriptFile : EditableStart "[string \"Script file\"]:"

/-- The ten digits, each at the place of its value. -/
def tenDigits : List Char := ['0', '1', '2', '3', '4', '5', '6', '7', '8', '9']

/-- The number that digits say: the last one counts ones, the one in front of it tens, and so on. -/
def placeValue (ds : List Char) : Nat :=
  Nat.ofDigits 10 (ds.reverse.map fun c => tenDigits.idxOf c)

/-- Digits, and what follows them: no further digit. -/
structure DigitRun (ds rest : List Char) : Prop where
  digits : ∀ c ∈ ds, c ∈ tenDigits
  ends : ∀ c ∈ rest.head?, c ∉ tenDigits

/-- Which line a message blames, if any. -/
inductive MessageBlame : List Char → Option Nat → Prop where
  | nothing {cs : List Char} (hnone : ∀ start, EditableStart start → ¬ start.toList <+: cs) :
    MessageBlame cs none
  | line {start : String} {ds rest : List Char} (hstart : EditableStart start)
    (hrun : DigitRun ds rest) (hsome : ds ≠ []) (hfits : placeValue ds < 2 ^ 32) :
    MessageBlame (start.toList ++ (ds ++ rest)) (some (placeValue ds))
  | unnumbered {start : String} {rest : List Char} (hstart : EditableStart start)
    (hrun : DigitRun [] rest) : MessageBlame (start.toList ++ rest) (some 0)
  | tooLarge {start : String} {ds rest : List Char} (hstart : EditableStart start)
    (hrun : DigitRun ds rest) (hlarge : 2 ^ 32 ≤ placeValue ds) :
    MessageBlame (start.toList ++ (ds ++ rest)) (some 0)

/-- The beginnings of the grammar are those that are looked for. -/
theorem editableStart_iff {start : String} : EditableStart start ↔ start ∈ editableChunks := by
  constructor
  · rintro (_ | _)
    · exact List.mem_cons_self
    · exact List.mem_cons_of_mem _ List.mem_cons_self
  · intro h
    rcases List.mem_cons.mp h with rfl | h
    · exact .plugin
    · cases List.mem_singleton.mp h
      exact .scriptFile

/-! ## Digits -/

/-- The digits that are read are the ten of the grammar. -/
theorem isDigit_iff_mem_tenDigits {c : Char} : c.isDigit = true ↔ c ∈ tenDigits := by
  have hall : ∀ d ∈ tenDigits, d.isDigit = true := List.all_eq_true.mp (by decide)
  refine ⟨fun h => ?_, hall c⟩
  simp only [Char.isDigit, Bool.and_eq_true, decide_eq_true_eq, UInt32.le_iff_toNat_le] at h
  have hlow : 48 ≤ c.toNat := h.1
  have hhigh : c.toNat ≤ 57 := h.2
  have hten : ∀ k < 10, Char.ofNat (48 + k) ∈ tenDigits := by decide
  have hchar := hten (c.toNat - 48) (by omega)
  rwa [Nat.add_sub_cancel' hlow, Char.ofNat_toNat] at hchar

/-- No character outside of ASCII is a digit, whatever it looks like. -/
theorem not_mem_tenDigits_of_le {c : Char} (h : 128 ≤ c.toNat) : c ∉ tenDigits := by
  have hascii : (tenDigits.all fun d => d.toNat < 128) = true := by decide
  intro hc
  exact absurd (of_decide_eq_true (List.all_eq_true.mp hascii c hc)) (Nat.not_lt.mpr h)

/-- The value of a digit is its place among the ten. -/
theorem toNat_sub_eq_idxOf {c : Char} (h : c ∈ tenDigits) :
    c.toNat - '0'.toNat = tenDigits.idxOf c := by
  have hall : (tenDigits.all fun d => d.toNat - '0'.toNat = tenDigits.idxOf d) = true := by decide
  exact of_decide_eq_true (List.all_eq_true.mp hall c h)

/-- One more digit moves those in front of it to the next place. -/
theorem placeValue_append_singleton (ds : List Char) (c : Char) :
    placeValue (ds ++ [c]) = placeValue ds * 10 + tenDigits.idxOf c := by
  unfold placeValue
  rw [List.reverse_append, List.reverse_singleton, List.singleton_append, List.map_cons,
    Nat.ofDigits_cons, Nat.mul_comm, Nat.add_comm]

/-- Zeros in front do not change a number, however many they are. -/
theorem placeValue_zeros_append (k : Nat) (ds : List Char) :
    placeValue (List.replicate k '0' ++ ds) = placeValue ds := by
  have hzero : tenDigits.idxOf '0' = 0 := rfl
  unfold placeValue
  rw [List.reverse_append, List.reverse_replicate, List.map_append, List.map_replicate, hzero,
    Nat.ofDigits_append_replicate_zero]

/-- Reading digits from the front gives the number that they say. -/
theorem decimalValue_eq_placeValue {ds : List Char} (h : ∀ c ∈ ds, c ∈ tenDigits) :
    decimalValue ds = placeValue ds := by
  induction ds using List.reverseRecOn with
  | nil => rfl
  | append_singleton ds c ih =>
    have hfront := ih fun d hd => h d (List.mem_append_left _ hd)
    have hlast := toNat_sub_eq_idxOf (h c (List.mem_append_right _ List.mem_cons_self))
    have hstep : decimalValue (ds ++ [c]) = decimalValue ds * 10 + (c.toNat - '0'.toNat) := by
      unfold decimalValue
      rw [List.foldl_append]
      rfl
    rw [hstep, hfront, hlast, placeValue_append_singleton]

/-- A number is printed with digits only. -/
theorem mem_tenDigits_of_mem_toString {n : Nat} {c : Char} (h : c ∈ (toString n).toList) :
    c ∈ tenDigits := by
  have hdigits : (toString n).toList = Binary64.digits n := String.toList_ofList
  rw [hdigits] at h
  exact isDigit_iff_mem_tenDigits.mp (isDigit_of_mem_digits h)

/-- The digits that a number is printed with say this number. -/
theorem placeValue_toString (n : Nat) : placeValue (toString n).toList = n := by
  have hdigits : (toString n).toList = Binary64.digits n := String.toList_ofList
  rw [← decimalValue_eq_placeValue fun c hc => mem_tenDigits_of_mem_toString hc, hdigits,
    decimalValue_digits]

/-! ## Numbers of 32 bits -/

/-- A number with one more digit, in arithmetic that stops. -/
def nextValue? (n : Nat) (c : Char) : Option Nat := do
  let tens ← Checked.natural? 32 (n * 10 : Nat)
  Checked.natural? 32 (tens + (c.toNat - '0'.toNat) : Nat)

/-- The number that digits write, in arithmetic that stops. There has to be a digit. -/
def readNumber? (ds : List Char) : Option Nat :=
  if ds = [] then none else ds.foldlM nextValue? 0

/-- One step of reading adds a digit to the number, unless it has more than 32 bits then. -/
theorem nextValue?_eq {c : Char} (h : c ∈ tenDigits) (n : Nat) :
    nextValue? n c = if n * 10 + tenDigits.idxOf c < 2 ^ 32 then some (n * 10 + tenDigits.idxOf c)
      else none := by
  unfold nextValue?
  rw [toNat_sub_eq_idxOf h, Checked.natural?_natCast]
  by_cases htens : n * 10 < 2 ^ 32
  · rw [if_pos htens, Option.bind_eq_bind, Option.bind_some, Checked.natural?_natCast]
  · rw [if_neg htens, if_neg (by omega), Option.bind_eq_bind, Option.bind_none]

/-- A number that becomes too large stays too large. -/
theorem foldlM_nextValue? {ds : List Char} (h : ∀ c ∈ ds, c ∈ tenDigits) :
    ds.foldlM nextValue? 0 = if placeValue ds < 2 ^ 32 then some (placeValue ds) else none := by
  induction ds using List.reverseRecOn with
  | nil => rfl
  | append_singleton ds c ih =>
    have hlast := h c (List.mem_append_right _ List.mem_cons_self)
    have hone (n : Nat) : [c].foldlM nextValue? n = nextValue? n c := by
      simp only [List.foldlM_cons, List.foldlM_nil, bind_pure]
    rw [List.foldlM_append, ih fun d hd => h d (List.mem_append_left _ hd),
      placeValue_append_singleton]
    by_cases hfits : placeValue ds < 2 ^ 32
    · rw [if_pos hfits, Option.bind_eq_bind, Option.bind_some, hone, nextValue?_eq hlast]
    · rw [if_neg hfits, if_neg (by omega), Option.bind_eq_bind, Option.bind_none]

/-- What is read of digits is the number that they say if it has at most 32 bits, and zero if not.
-/
theorem readNumber?_getD {ds : List Char} (h : ∀ c ∈ ds, c ∈ tenDigits) :
    (readNumber? ds).getD 0 = if placeValue ds < 2 ^ 32 then placeValue ds else 0 := by
  unfold readNumber?
  by_cases hsome : ds = []
  · subst hsome
    rfl
  · rw [if_neg hsome, foldlM_nextValue? h]
    split <;> rfl

/-! ## Runs of digits -/

namespace DigitRun

variable {ds rest : List Char}

/-- Of digits and what follows them, the digits are what is read as digits. -/
theorem takeWhile_isDigit (h : DigitRun ds rest) : (ds ++ rest).takeWhile Char.isDigit = ds := by
  have hdigits : ∀ c ∈ ds, c.isDigit = true :=
    fun c hc => isDigit_iff_mem_tenDigits.mpr (h.digits c hc)
  rw [List.takeWhile_append_of_pos hdigits]
  cases rest with
  | nil => exact List.append_nil ds
  | cons c rest =>
    have hstop : ¬ c.isDigit = true := fun hc => h.ends c rfl (isDigit_iff_mem_tenDigits.mp hc)
    rw [List.takeWhile_cons_of_neg hstop, List.append_nil]

/-- The number at the front of a text, zero if it has more than 32 bits. -/
theorem leadingLine_eq (h : DigitRun ds rest) :
    leadingLine (ds ++ rest) = if placeValue ds < 2 ^ 32 then placeValue ds else 0 := by
  unfold leadingLine
  rw [h.takeWhile_isDigit, decimalValue_eq_placeValue h.digits]
  rfl

end DigitRun

/-- Every text begins with a run of digits, which may be empty. -/
theorem exists_digitRun (cs : List Char) : ∃ ds rest, cs = ds ++ rest ∧ DigitRun ds rest := by
  refine ⟨cs.takeWhile Char.isDigit, cs.dropWhile Char.isDigit,
    List.takeWhile_append_dropWhile.symm, fun c hc => ?_, fun c hc hdigit => ?_⟩
  · exact isDigit_iff_mem_tenDigits.mp (List.mem_takeWhile_imp hc)
  · have hstop := List.head?_dropWhile_not Char.isDigit cs
    rw [Option.mem_def.mp hc] at hstop
    exact absurd (isDigit_iff_mem_tenDigits.mpr hdigit) (Bool.eq_false_iff.mp hstop)

/-! ## Messages -/

/-- Behind one of the beginnings stands the number of the line. -/
theorem errorLine?_of_start {start : String} (h : EditableStart start) (cs : List Char) :
    errorLine? (String.ofList (start.toList ++ cs)) = some (leadingLine cs) := by
  unfold errorLine?
  rw [String.toList_ofList]
  -- The two beginnings differ in the first letter of the label.
  cases h <;> rfl

/-- Behind one of the beginnings, the line is read from the rest. -/
theorem errorLine?_append_of_start {start : String} (h : EditableStart start) (s : String) :
    errorLine? (start ++ s) = some (leadingLine s.toList) := by
  have hread := errorLine?_of_start h s.toList
  rwa [String.ofList_append, String.ofList_toList, String.ofList_toList] at hread

/-- A message blames what the grammar says. -/
theorem MessageBlame.errorLine?_eq {cs : List Char} {r : Option Nat} (h : MessageBlame cs r) :
    errorLine? (String.ofList cs) = r := by
  cases h with
  | nothing hnone =>
    rw [errorLine?_eq_none_iff, String.toList_ofList]
    exact fun start hstart => hnone start (editableStart_iff.mpr hstart)
  | line hstart hrun _ hfits =>
    rw [errorLine?_of_start hstart, hrun.leadingLine_eq, if_pos hfits]
  | unnumbered hstart hrun =>
    have hzero := hrun.leadingLine_eq
    rw [List.nil_append] at hzero
    rw [errorLine?_of_start hstart, hzero]
    rfl
  | tooLarge hstart hrun hlarge =>
    rw [errorLine?_of_start hstart, hrun.leadingLine_eq, if_neg (Nat.not_lt.mpr hlarge)]

/-- The grammar says something about every message. -/
theorem exists_blame (cs : List Char) : ∃ r, MessageBlame cs r := by
  by_cases hnone : ∀ start, EditableStart start → ¬ start.toList <+: cs
  · exact ⟨none, .nothing hnone⟩
  · push Not at hnone
    obtain ⟨start, hstart, after, rfl⟩ := hnone
    obtain ⟨ds, rest, rfl, hrun⟩ := exists_digitRun after
    by_cases hfits : placeValue ds < 2 ^ 32
    · by_cases hsome : ds = []
      · subst hsome
        exact ⟨some 0, .unnumbered hstart hrun⟩
      · exact ⟨_, .line hstart hrun hsome hfits⟩
    · exact ⟨some 0, .tooLarge hstart hrun (Nat.not_lt.mp hfits)⟩

/-- The line that is read is the one that the grammar gives. -/
theorem blame_iff_errorLine? {message : String} {r : Option Nat} :
    MessageBlame message.toList r ↔ errorLine? message = r := by
  constructor
  · intro h
    have hread := h.errorLine?_eq
    rwa [String.ofList_toList] at hread
  · rintro rfl
    obtain ⟨r, hr⟩ := exists_blame message.toList
    have hread := hr.errorLine?_eq
    rw [String.ofList_toList] at hread
    rwa [hread]

/-- Messages blame exactly what the grammar says, and the number of a line is what 32 bits hold of
the digits, zero if they do not. So a message without one of the beginnings blames no line, and no
other does; a number of at most 32 bits is read back whatever zeros are in front of it, and whatever
follows that is no digit; and a character outside of ASCII ends a number, be it a digit of another
script. -/
theorem blamed_line_is_that_of_the_grammar :
    (∀ (message : String) (r : Option Nat),
      errorLine? message = r ↔ MessageBlame message.toList r) ∧
    (∀ message : String, errorLine? message = none ↔
      ∀ start, EditableStart start → ¬ start.toList <+: message.toList) ∧
    (∀ (start : String) (ds rest : List Char), EditableStart start → DigitRun ds rest →
      errorLine? (start ++ String.ofList (ds ++ rest)) = some ((readNumber? ds).getD 0)) ∧
    (∀ (start rest : String) (k n : Nat), EditableStart start → n < 2 ^ 32 →
      (∀ c ∈ rest.toList.head?, c ∉ tenDigits) →
      errorLine? (start ++ String.ofList (List.replicate k '0') ++ toString n ++ rest) =
        some n) ∧
    (∀ (start : String) (ds rest : List Char) (c : Char), EditableStart start →
      (∀ d ∈ ds, d ∈ tenDigits) → 128 ≤ c.toNat →
      errorLine? (start ++ String.ofList (ds ++ c :: rest)) =
        errorLine? (start ++ String.ofList ds)) := by
  refine ⟨fun _ _ => blame_iff_errorLine?.symm, fun message => ?_, ?_, ?_, ?_⟩
  · rw [errorLine?_eq_none_iff]
    exact forall_congr' fun start => by rw [editableStart_iff]
  · intro start ds rest hstart hrun
    rw [errorLine?_append_of_start hstart, String.toList_ofList, hrun.leadingLine_eq,
      readNumber?_getD hrun.digits]
  · intro start rest k n hstart hn hrest
    have hrun : DigitRun (List.replicate k '0' ++ (toString n).toList) rest.toList := by
      refine ⟨fun c hc => ?_, hrest⟩
      rcases List.mem_append.mp hc with hzero | hdigit
      · rw [List.eq_of_mem_replicate hzero]
        exact List.mem_cons_self
      · exact mem_tenDigits_of_mem_toString hdigit
    have hvalue : placeValue (List.replicate k '0' ++ (toString n).toList) = n := by
      rw [placeValue_zeros_append, placeValue_toString]
    rw [String.append_assoc, String.append_assoc, errorLine?_append_of_start hstart]
    rw [String.toList_append, String.toList_append, String.toList_ofList, ← List.append_assoc,
      hrun.leadingLine_eq, hvalue, if_pos hn]
  · intro start ds rest c hstart hds hc
    have hrun : DigitRun ds (c :: rest) := by
      refine ⟨hds, ?_⟩
      rintro _ ⟨⟩
      exact not_mem_tenDigits_of_le hc
    have halone : DigitRun ds [] := ⟨hds, nofun⟩
    have hline := halone.leadingLine_eq
    rw [List.append_nil] at hline
    rw [errorLine?_append_of_start hstart, errorLine?_append_of_start hstart,
      String.toList_ofList, String.toList_ofList, hrun.leadingLine_eq, hline]

/-- The largest number of 32 bits, with zeros in front and an Arabic digit behind it, and the number
after it. -/
theorem blamed_line_is_that_of_the_grammar_at_32_bits :
    (4294967295 < 2 ^ 32 ∧ '\u0663' ∉ tenDigits ∧
      errorLine? ("[string \"Script file\"]:" ++ "00" ++ "4294967295" ++ "\u0663: late") =
        some 4294967295) ∧
    (128 ≤ ('\u0663').toNat ∧
      errorLine? ("[string \"Plugin\"]:" ++ String.ofList ['1', '\u0663', '2']) =
        errorLine? ("[string \"Plugin\"]:" ++ String.ofList ['1'])) ∧
    (DigitRun "4294967296".toList [] ∧
      errorLine? ("[string \"Plugin\"]:" ++ String.ofList ("4294967296".toList ++ [])) =
        some 0) := by
  obtain ⟨-, -, hnumber, hread, hforeign⟩ := blamed_line_is_that_of_the_grammar
  have hended : '\u0663' ∉ tenDigits := by decide
  have houtside : 128 ≤ ('\u0663').toNat := by decide
  have hrest : ∀ c ∈ "\u0663: late".toList.head?, c ∉ tenDigits := by
    rintro _ ⟨⟩
    exact hended
  have hdigits : "4294967296".toList.all Char.isDigit = true := by decide
  have hrun : DigitRun "4294967296".toList [] :=
    ⟨fun c hc => isDigit_iff_mem_tenDigits.mp (List.all_eq_true.mp hdigits c hc), nofun⟩
  have hlarge : readNumber? "4294967296".toList = none := by decide
  exact ⟨⟨by decide, hended, hread _ _ 2 4294967295 .scriptFile (by decide) hrest⟩,
    ⟨houtside, hforeign _ ['1'] ['2'] _ .plugin (List.forall_mem_singleton.mpr (by decide))
      houtside⟩,
    hrun, by rw [hnumber _ _ _ .plugin hrun, hlarge]; rfl⟩

end EventScripts
