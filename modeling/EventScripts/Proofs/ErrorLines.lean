import EventScripts.Bytes.Utf8
import EventScripts.Host.ErrorLine
import EventScripts.Script.ChunkId

/-!
# From the position of a line to the line that is blamed

Messages of errors in a plugin or in the script file have a position in front: the name of the chunk
and the number of a line. Position and message are bytes; they are cut at a NUL byte if a trace is
added, and become a text in which unreadable parts are replaced. None of this reaches the position,
which is all ASCII, so whatever the message is, the text blames the line of the position. A number
in the message is not mistaken for it: a colon ends the number of the line.
-/

set_option autoImplicit false

namespace EventScripts

open Script

/-! ## ASCII -/

/-- Characters as bytes, if they are ASCII. -/
def asciiBytes (cs : List Char) : Bytes := cs.map fun c => c.val.toUInt8

/-- An ASCII character that is not NUL. -/
def IsShown (c : Char) : Prop := 0 < c.toNat ∧ c.toNat < 128

namespace IsShown

variable {c : Char}

/-- The byte of a shown character has its number. -/
theorem toNat_byte (h : IsShown c) : c.val.toUInt8.toNat = c.toNat := by
  have hsmall : c.val.toNat < 128 := h.2
  rw [UInt32.toNat_toUInt8]
  exact Nat.mod_eq_of_lt (by omega)

/-- The byte of a shown character stands for this character alone. -/
theorem lead_byte (h : IsShown c) : Utf8.lead c.val.toUInt8 = .single c := by
  unfold Utf8.lead
  dsimp only
  rw [h.toNat_byte, if_pos h.2, Char.ofNat_toNat]

/-- The byte of a shown character does not end a text. -/
theorem byte_ne_nul (h : IsShown c) : c.val.toUInt8 ≠ 0 := by
  intro hnul
  have hzero := h.toNat_byte
  rw [hnul] at hzero
  exact absurd h.1 (by rw [← hzero]; decide)

end IsShown

variable {cs : List Char}

/-- Shown characters are read back from their bytes, whatever follows. -/
theorem Utf8.lossyFrom_asciiBytes (h : ∀ c ∈ cs, IsShown c) (rest : Bytes) :
    lossyFrom none (asciiBytes cs ++ rest) = cs ++ lossyFrom none rest := by
  induction cs with
  | nil => rfl
  | cons c cs ih =>
    have hlead := (h c List.mem_cons_self).lead_byte
    show lossyFrom none (c.val.toUInt8 :: (asciiBytes cs ++ rest)) = _
    rw [lossyFrom, hlead]
    dsimp only
    rw [ih fun d hd => h d (List.mem_cons_of_mem c hd)]
    rfl

/-- A cut at the first NUL byte comes behind shown characters. -/
theorem untilNul_asciiBytes_append (h : ∀ c ∈ cs, IsShown c) (rest : Bytes) :
    (asciiBytes cs ++ rest).untilNul = asciiBytes cs ++ rest.untilNul := by
  unfold Bytes.untilNul
  refine List.takeWhile_append_of_pos fun b hb => ?_
  obtain ⟨c, hc, rfl⟩ := List.mem_map.mp hb
  exact decide_eq_true (h c hc).byte_ne_nul

/-! ## Numbers of lines -/

/-- A number is written with digits only. -/
theorem isDigit_of_mem_digits {n : Nat} {c : Char} (h : c ∈ Binary64.digits n) :
    c.isDigit = true :=
  Nat.isDigit_of_mem_toDigits (by decide) (by decide) h

/-- The digits of a number are read as this number. -/
theorem decimalValue_digits (n : Nat) : decimalValue (Binary64.digits n) = n := by
  have hvalue : decimalValue (Binary64.digits n) = Nat.ofDigitChars 10 (Nat.toDigits 10 n) 0 := by
    unfold decimalValue Binary64.digits Nat.ofDigitChars
    congr 1
    funext m c
    rw [Nat.mul_comm]
  rw [hvalue, Nat.ofDigitChars_ten_toDigits]

/-- The number of a line ends where something else than a digit comes. -/
theorem leadingLine_digits {n : Nat} (hn : n < UInt32.size) {c : Char} (hc : c.isDigit = false)
    (rest : List Char) : leadingLine (Binary64.digits n ++ c :: rest) = n := by
  have hfront : (Binary64.digits n ++ c :: rest).takeWhile Char.isDigit = Binary64.digits n := by
    rw [List.takeWhile_append_of_pos fun d hd => isDigit_of_mem_digits hd,
      List.takeWhile_cons_of_neg (by rw [hc]; decide), List.append_nil]
  unfold leadingLine
  rw [hfront, decimalValue_digits]
  exact if_pos hn

/-! ## The beginnings of messages -/

/-- What is behind a start is the rest of a text that begins with it. -/
theorem afterStart?_eq_some_iff {start rest : List Char} :
    afterStart? start cs = some rest ↔ cs = start ++ rest := by
  induction start generalizing cs with
  | nil => simp [afterStart?]
  | cons s ss ih =>
    cases cs with
    | nil => simp [afterStart?]
    | cons c cs =>
      unfold afterStart?
      by_cases hsame : s = c
      · subst hsame
        rw [if_pos (beq_self_eq_true s), ih]
        simp
      · rw [if_neg (by simpa using hsame)]
        simp [Ne.symm hsame]

/-- A message blames no line exactly if it has none of the beginnings. -/
theorem errorLine?_eq_none_iff {message : String} :
    errorLine? message = none ↔
      ∀ start ∈ editableChunks, ¬ start.toList <+: message.toList := by
  unfold errorLine?
  rw [Option.map_eq_none_iff, List.findSome?_eq_none_iff]
  refine forall₂_congr fun start _ => ?_
  rw [Option.eq_none_iff_forall_ne_some]
  constructor
  · rintro hnone ⟨rest, hrest⟩
    exact hnone rest (afterStart?_eq_some_iff.mpr hrest.symm)
  · intro hnot rest hrest
    exact hnot ⟨rest, (afterStart?_eq_some_iff.mp hrest).symm⟩

/-! ## Positions in editable chunks -/

/-- The labels of the chunks whose source can be edited. -/
def editableLabels : List String := ["Plugin", "Script file"]

/-- The characters of the position of a line in an editable chunk. -/
def positionChars (label : String) (n : Nat) : List Char :=
  ("[string \"" ++ label ++ "\"]:").toList ++ (Binary64.digits n ++ [':', ' '])

variable {label : String}

/-- The position of a line in an editable chunk is ASCII. -/
theorem positionText_eq_asciiBytes (h : label ∈ editableLabels) (n : Nat) :
    positionText (chunkId (textBytes label)) n = asciiBytes (positionChars label n) := by
  have hstart : chunkId (textBytes label) ++ textBytes ":" =
      asciiBytes ("[string \"" ++ label ++ "\"]:").toList := by
    revert h label
    decide
  have hend : textBytes ": " = asciiBytes [':', ' '] := by decide
  unfold positionText positionChars
  rw [hstart, hend, List.append_assoc]
  unfold asciiBytes
  rw [List.map_append, List.map_append]

/-- All characters of such a position are shown ones. -/
theorem isShown_of_mem_positionChars (h : label ∈ editableLabels) {n : Nat} {c : Char}
    (hc : c ∈ positionChars label n) : IsShown c := by
  unfold positionChars at hc
  rw [List.mem_append, List.mem_append] at hc
  rcases hc with hstart | hdigit | hend
  · have hall : ∀ label ∈ editableLabels, ("[string \"" ++ label ++ "\"]:").toList.all
        (fun c => 0 < c.toNat && c.toNat < 128) = true := by
      decide
    simpa [IsShown] using List.all_eq_true.mp (hall label h) c hstart
  · have hrange := isDigit_of_mem_digits hdigit
    simp only [Char.isDigit, Bool.and_eq_true, decide_eq_true_eq, UInt32.le_iff_toNat_le] at hrange
    have hlow : 48 ≤ c.toNat := hrange.1
    have hhigh : c.toNat ≤ 57 := hrange.2
    exact ⟨by omega, by omega⟩
  · rcases List.mem_cons.mp hend with rfl | hspace
    · exact ⟨by decide, by decide⟩
    · cases List.mem_singleton.mp hspace
      exact ⟨by decide, by decide⟩

/-- A text that begins with the position of a line in an editable chunk blames this line. -/
theorem errorLine?_positionChars (h : label ∈ editableLabels) {n : Nat} (hn : n < UInt32.size)
    (rest : List Char) : errorLine? (String.ofList (positionChars label n ++ rest)) = some n := by
  have hrest : ∃ after, (editableChunks.findSome? fun start =>
      afterStart? start.toList (positionChars label n ++ rest)) = some after ∧
        after = Binary64.digits n ++ ':' :: ' ' :: rest := by
    refine ⟨_, ?_, rfl⟩
    unfold positionChars
    rw [List.append_assoc, List.append_assoc]
    -- The two beginnings differ in the first letter of the label.
    rcases List.mem_cons.mp h with rfl | h
    · rfl
    · cases List.mem_singleton.mp h
      rfl
  obtain ⟨_, hfound, rfl⟩ := hrest
  unfold errorLine?
  rw [String.toList_ofList, hfound, Option.map_some, leadingLine_digits hn (by decide)]

/-- The text of a message with the position of a line in front blames this line, whatever bytes the
message has. -/
theorem errorLine?_positionText (h : label ∈ editableLabels) {n : Nat} (hn : n < UInt32.size)
    (message : Bytes) :
    errorLine? (positionText (chunkId (textBytes label)) n ++ message).lossy = some n := by
  unfold Bytes.lossy
  rw [positionText_eq_asciiBytes h,
    Utf8.lossyFrom_asciiBytes fun c hc => isShown_of_mem_positionChars h hc]
  exact errorLine?_positionChars h hn _

/-- A cut at the first NUL byte leaves the position of a line in an editable chunk. -/
theorem untilNul_positionText (h : label ∈ editableLabels) (n : Nat) (message : Bytes) :
    (positionText (chunkId (textBytes label)) n ++ message).untilNul =
      positionText (chunkId (textBytes label)) n ++ message.untilNul := by
  rw [positionText_eq_asciiBytes h]
  exact untilNul_asciiBytes_append (fun c hc => isShown_of_mem_positionChars h hc) message

end EventScripts
