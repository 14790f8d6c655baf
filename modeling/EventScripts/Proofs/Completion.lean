import EventScripts.Proofs.OfferedNames
import EventScripts.Proofs.TextOrder

/-!
# What completion lists

An index keeps its names ascending and each once. Completion scans them from the first one that is
not before the given start, and stops at the first one that does not begin with it. Nothing is
missed on either side: a name that begins with the start is not before it, and every name between
the start and a name that begins with it begins with it too.
-/

set_option autoImplicit false

namespace EventScripts

open Script

/-! ## Names that begin alike -/

/-- A start is not after any text that begins with it. -/
theorem le_of_isPrefix {s t : String} (h : s.toList <+: t.toList) : s ≤ t := by
  rw [← textLe_iff]
  unfold textLe
  obtain ⟨rest, hrest⟩ := h
  rw [← hrest]
  generalize s.toList = cs
  induction cs with
  | nil => rfl
  | cons c cs ih => simpa [charsLe] using ih

/-- What lies between a start and a text that begins with it begins with it too. -/
theorem isPrefix_of_between {cs ds es : List Char} (hlow : charsLe cs ds = true)
    (hhigh : charsLe ds es = true) (h : cs <+: es) : cs <+: ds := by
  induction cs generalizing ds es with
  | nil => exact List.nil_prefix
  | cons c cs ih =>
    obtain ⟨rest, rfl⟩ := h
    cases ds with
    | nil => cases hlow
    | cons d ds =>
      rw [List.cons_append] at hhigh
      simp only [charsLe, Bool.or_eq_true, Bool.and_eq_true, decide_eq_true_eq, beq_iff_eq]
        at hlow hhigh
      -- The first characters enclose each other, so they are the same.
      have hsame : c = d := by
        rcases hlow with hlt | ⟨hcd, -⟩
        · rcases hhigh with hgt | ⟨hdc, -⟩
          · exact absurd hgt (lt_asymm hlt)
          · exact hdc.symm
        · exact hcd
      subst hsame
      simp only [lt_irrefl, true_and, false_or] at hlow hhigh
      exact List.cons_prefix_cons.mpr ⟨rfl, ih hlow hhigh (List.prefix_append cs rest)⟩

/-- Between a start and a text that begins with it all texts begin with it. -/
theorem isPrefix_of_le_of_le {s m t : String} (hlow : s ≤ m) (hhigh : m ≤ t)
    (h : s.toList <+: t.toList) : s.toList <+: m.toList :=
  isPrefix_of_between ((textLe_iff s m).mpr hlow) ((textLe_iff m t).mpr hhigh) h

/-! ## Ascending names -/

/-- Ascending names stay ascending when one is inserted. -/
theorem pairwise_insertName {names : List String} (h : names.Pairwise (· < ·)) (name : String) :
    (insertName name names).Pairwise (· < ·) := by
  induction names with
  | nil => exact List.pairwise_singleton _ name
  | cons n ns ih =>
    obtain ⟨hn, hns⟩ := List.pairwise_cons.mp h
    unfold insertName
    by_cases hsame : (n == name) = true
    · rw [if_pos hsame]
      exact h
    · rw [if_neg hsame]
      have hne : n ≠ name := by simpa using hsame
      by_cases hbefore : textLe name n = true
      · have hlt : name < n := lt_of_le_of_ne ((textLe_iff name n).mp hbefore) hne.symm
        rw [if_pos hbefore]
        refine List.pairwise_cons.mpr ⟨fun m hm => ?_, h⟩
        rcases List.mem_cons.mp hm with rfl | hmem
        · exact hlt
        · exact hlt.trans (hn m hmem)
      · have hlt : n < name := not_le.mp fun hle => hbefore ((textLe_iff name n).mpr hle)
        rw [if_neg hbefore]
        refine List.pairwise_cons.mpr ⟨fun m hm => ?_, ih hns⟩
        rcases (mem_insertName m name ns).mp hm with rfl | hmem
        · exact hlt
        · exact hn m hmem

namespace Names

/-- The names that are gathered from tables are ascending. -/
theorem pairwise_gather (vm : Vm) (nameOf : String → Key × Value → Option String)
    (tables : List String) : (gather vm nameOf tables).Pairwise (· < ·) := by
  unfold gather
  refine List.foldlRecOn _ _ List.Pairwise.nil fun names hnames name _ => ?_
  exact pairwise_insertName hnames name

/-- The names of a machine are ascending. -/
theorem pairwise_ofMachine (vm : Vm) :
    (ofMachine vm).functions.Pairwise (· < ·) ∧ (ofMachine vm).entries.Pairwise (· < ·) :=
  ⟨(pairwise_gather vm _ _).filter _, pairwise_gather vm _ _⟩

/-! ## The scan -/

/-- Whether a name begins with a start. -/
def beginsWith (start name : String) : Bool := start.toList.isPrefixOf name.toList

/-- A name begins with a start if the characters of the start come first in it. -/
theorem beginsWith_iff (start name : String) :
    beginsWith start name = true ↔ start.toList <+: name.toList :=
  List.isPrefixOf_iff_prefix

/-- Among ascending names from the start on, those that begin with it come first. -/
theorem takeWhile_eq_filter {start : String} {names : List String}
    (h : names.Pairwise (· < ·)) (hfrom : ∀ n ∈ names, start ≤ n) :
    names.takeWhile (beginsWith start) = names.filter (beginsWith start) := by
  induction names with
  | nil => rfl
  | cons n ns ih =>
    obtain ⟨hn, hns⟩ := List.pairwise_cons.mp h
    by_cases hbegins : beginsWith start n = true
    · rw [List.takeWhile_cons_of_pos hbegins, List.filter_cons_of_pos hbegins,
        ih hns fun m hm => hfrom m (List.mem_cons_of_mem n hm)]
    · -- No later name begins with the start either, for `n` lies between the two.
      have hnone : ∀ m ∈ ns, ¬ beginsWith start m = true := by
        intro m hm hlater
        rw [beginsWith_iff] at hbegins hlater
        exact hbegins (isPrefix_of_le_of_le (hfrom n List.mem_cons_self) (hn m hm).le hlater)
      rw [List.takeWhile_cons_of_neg hbegins, List.filter_cons_of_neg hbegins,
        List.filter_eq_nil_iff.mpr hnone]

/-- The scan of ascending names finds those that begin with the start. -/
theorem startingWith_eq_filter {names : List String} (h : names.Pairwise (· < ·))
    (start : String) : startingWith start names = names.filter (beginsWith start) := by
  unfold startingWith
  induction names with
  | nil => rfl
  | cons n ns ih =>
    obtain ⟨hn, hns⟩ := List.pairwise_cons.mp h
    by_cases hreached : textLe start n = true
    · have hle : start ≤ n := (textLe_iff start n).mp hreached
      rw [List.dropWhile_cons_of_neg (by simpa using hreached)]
      refine takeWhile_eq_filter h fun m hm => ?_
      rcases List.mem_cons.mp hm with rfl | hmem
      · exact hle
      · exact hle.trans (hn m hmem).le
    · have hnot : ¬ beginsWith start n = true := by
        rw [beginsWith_iff]
        exact fun hbegins => hreached ((textLe_iff start n).mpr (le_of_isPrefix hbegins))
      rw [List.dropWhile_cons_of_pos (by simpa using hreached), List.filter_cons_of_neg hnot]
      exact ih hns

end Names

/-! ## Completion -/

namespace NameIndex

/-- Both kinds of names are ascending. -/
structure Ordered (index : NameIndex) : Prop where
  functions : index.functions.Pairwise (· < ·)
  entries : index.entries.Pairwise (· < ·)

/-- An index stays ordered when it is filled. -/
theorem Ordered.populate {index : NameIndex} (h : index.Ordered) (vm : Vm) :
    (index.populate vm).1.Ordered := by
  unfold NameIndex.populate
  cases hnames : index.names with
  | none => exact ⟨(Names.pairwise_ofMachine vm).1, (Names.pairwise_ofMachine vm).2⟩
  | some names => exact h

/-- The index after it was to be filled from machines, one after the other. Every index comes about
in this way. -/
def filledFrom (machines : List Vm) : NameIndex :=
  machines.foldl (fun index vm => (index.populate vm).1) .empty

/-- Every index is ordered. -/
theorem ordered_filledFrom (machines : List Vm) : (filledFrom machines).Ordered := by
  have hfold : ∀ index : NameIndex, index.Ordered →
      (machines.foldl (fun index vm => (index.populate vm).1) index).Ordered := by
    induction machines with
    | nil => exact fun _ hindex => hindex
    | cons vm rest ih => exact fun index hindex => ih _ (hindex.populate vm)
  exact hfold .empty ⟨List.Pairwise.nil, List.Pairwise.nil⟩

/-- Found are those of the names whose bytes begin with the bytes of the start, in the order of
their bytes and each once. -/
structure Finds (start : String) (names found : List String) : Prop where
  mem_iff : ∀ name, name ∈ found ↔ name ∈ names ∧ textBytes start <+: textBytes name
  ascending : found.Pairwise fun first second => textBytes first < textBytes second

/-- The scan finds the names whose bytes begin with those of the start. -/
theorem finds_startingWith {names : List String} (h : names.Pairwise (· < ·)) (start : String) :
    Finds start names (Names.startingWith start names) := by
  rw [Names.startingWith_eq_filter h]
  constructor
  · intro name
    rw [List.mem_filter, Names.beginsWith_iff, textBytes_isPrefix_iff]
  · exact (h.filter _).imp textBytes_lt

/-- Completion lists exactly the names that begin with what was typed: of whatever machines the
index was to be filled, the functions among them come first and the table entries after them, both
in the order of their bytes and each name once. -/
theorem completion_lists_exactly (machines : List Vm) (start : String) :
    ∃ functions entries,
      (filledFrom machines).complete start = functions ++ entries ∧
      Finds start (filledFrom machines).functions functions ∧
      Finds start (filledFrom machines).entries entries := by
  have hordered := ordered_filledFrom machines
  exact ⟨_, _, rfl, finds_startingWith hordered.functions start,
    finds_startingWith hordered.entries start⟩

example : Names.startingWith "é" ["e", "z", "é", "éa", "ê"] = ["é", "éa"] := by
  decide

end NameIndex

end EventScripts
