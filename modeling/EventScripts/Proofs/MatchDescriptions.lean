import EventScripts.Proofs.CaptureTables
import EventScripts.Proofs.NativeCalls

/-!
# One match described by two methods

`exec` and `match` of a pattern search a subject from the same place and tell of the same match: the
one by its first and last byte and a table of its groups, the other by the texts of its groups, or
by its own text if there is no group.

Nothing is taken for granted of the engine that searches but what any such engine keeps: the spans
that it gives for a place inside of the subject are one for the whole match and one for each group,
they lie inside of the subject, and they begin and end where characters do. So what a span covers is
a text again, and the texts in the table are those of the groups.
-/

set_option autoImplicit false

namespace EventScripts

open Script

/-- Only the empty text has no byte. -/
theorem eq_empty_of_length_textBytes {a : String} (h : (textBytes a).length = 0) : a = "" := by
  have hbytes : textBytes a = textBytes "" := List.length_eq_zero_iff.mp h
  exact textBytes_inj hbytes

namespace Pattern

/-! ## Spans of texts -/

/-- A place in the bytes of a text at which a character begins, or the text ends. -/
def Boundary (subject : String) (place : Nat) : Prop :=
  ∃ before after : String, subject = before ++ after ∧ (textBytes before).length = place

/-- A span of the bytes of a subject is that of a part of it. -/
def Covers (subject : String) (span : Span) (text : String) : Prop :=
  ∃ before after : String, subject = before ++ text ++ after ∧
    span = ((textBytes before).length, (textBytes (before ++ text)).length)

/-- Boundaries lie inside of the text. -/
theorem Boundary.le {subject : String} {place : Nat} (h : Boundary subject place) :
    place ≤ (textBytes subject).length := by
  obtain ⟨before, after, rfl, rfl⟩ := h
  rw [textBytes_append, List.length_append]
  omega

/-- Between two boundaries there is a part of the text. -/
theorem exists_covers {subject : String} {a b : Nat} (hab : a ≤ b) (ha : Boundary subject a)
    (hb : Boundary subject b) : ∃ text, Covers subject (a, b) text := by
  obtain ⟨before, rest, hfirst, rfl⟩ := ha
  obtain ⟨upTo, after, hlast, rfl⟩ := hb
  have hchars : before.toList ++ rest.toList = upTo.toList ++ after.toList := by
    rw [← String.toList_append, ← String.toList_append, ← hfirst, ← hlast]
  rcases List.append_eq_append_iff.mp hchars with ⟨cs, hmore, -⟩ | ⟨cs, hmore, -⟩
  · have htext : upTo = before ++ String.ofList cs := by
      rw [← String.toList_inj, String.toList_append, String.toList_ofList, hmore]
    exact ⟨String.ofList cs, before, after, by rw [← htext, hlast], by rw [← htext]⟩
  · -- The second place is not in front of the first one, so they are the same.
    have htext : before = upTo ++ String.ofList cs := by
      rw [← String.toList_inj, String.toList_append, String.toList_ofList, hmore]
    have hnone : (textBytes (String.ofList cs)).length = 0 := by
      rw [htext, textBytes_append, List.length_append] at hab
      omega
    rw [eq_empty_of_length_textBytes hnone, String.append_empty] at htext
    refine ⟨"", before, after, ?_, ?_⟩
    · rw [String.append_empty, htext, hlast]
    · rw [String.append_empty, htext]

/-- The bytes of a span are those of the part that it covers. -/
theorem slice_of_covers {subject text : String} {span : Span} (h : Covers subject span text) :
    slice (textBytes subject) span = textBytes text := by
  obtain ⟨before, after, rfl, rfl⟩ := h
  unfold slice
  simp only [textBytes_append, List.length_append, List.append_assoc, List.drop_left,
    Nat.add_sub_cancel_left, List.take_left]

/-! ## What engines keep -/

/-- What a regex engine keeps about a match of a pattern in a subject: it gives one span for the
whole match, and one for each group that took part. They lie in the subject, in order, and begin and
end where characters do. -/
structure IsMatch (p : Pattern) (subject : String) (spans : List (Option Span)) : Prop where
  length : spans.length = p.groups + 1
  whole : spans.head? ≠ some none
  inside : ∀ span, some span ∈ spans →
    span.1 ≤ span.2 ∧ Boundary subject span.1 ∧ Boundary subject span.2

/-- The names of a pattern are different and those of groups, and a pattern that fits into memory
has fewer groups than a list can have places. -/
structure Named (p : Pattern) : Prop where
  short : p.groups + 1 < listBound
  distinct : (p.names.map (·.1)).Nodup
  numbered : ∀ name ∈ p.names, 1 ≤ name.2 ∧ name.2 ≤ p.groups

/-- What is found in a subject from a place inside of it is a match. -/
def Finds (p : Pattern) (subject : String) : Prop :=
  ∀ place spans, place ≤ (textBytes subject).length → p.spans? subject place = some spans →
    p.IsMatch subject spans

/-- What is listed of a subject are matches. -/
def Lists (p : Pattern) (subject : String) : Prop :=
  ∀ spans ∈ p.matchesOf subject, p.IsMatch subject spans

/-- A match has a span of its own. -/
theorem IsMatch.head?_eq {p : Pattern} {subject : String} {spans : List (Option Span)}
    (h : p.IsMatch subject spans) : spans.head? = some (some (wholeSpan spans)) := by
  have hlength := h.length
  have hwhole := h.whole
  cases spans with
  | nil => cases hlength
  | cons span rest =>
    cases span with
    | none => exact absurd rfl hwhole
    | some span => rfl

/-- What a span of a match covers is a part of the subject. -/
theorem IsMatch.exists_covers {p : Pattern} {subject : String} {spans : List (Option Span)}
    (h : p.IsMatch subject spans) {span : Span} (hspan : some span ∈ spans) :
    ∃ text, Covers subject span text := by
  obtain ⟨hordered, hfirst, hlast⟩ := h.inside span hspan
  exact Pattern.exists_covers hordered hfirst hlast

/-- A match has a text. -/
theorem IsMatch.exists_text {p : Pattern} {subject : String} {spans : List (Option Span)}
    (h : p.IsMatch subject spans) : ∃ text, Covers subject (wholeSpan spans) text :=
  h.exists_covers (List.mem_of_head? h.head?_eq)

end Pattern

namespace Script

open Pattern (Span)

/-- A value tells of a group: it is the text of the group, or false if the group took no part. -/
def TellsGroup (subject : String) : Option Span → Value → Prop
  | some span, v => ∃ text, Pattern.Covers subject span text ∧ v = .text text
  | none, v => v = .boolean false

/-- The value that stands for a group of a match tells of it. -/
theorem tellsGroup_groupValue {p : Pattern} {subject : String} {spans : List (Option Span)}
    (hm : p.IsMatch subject spans) {span : Option Span} (hspan : span ∈ spans) :
    TellsGroup subject span (groupValue (textBytes subject) span) := by
  cases span with
  | none => exact rfl
  | some span =>
    obtain ⟨text, hcovers⟩ := hm.exists_covers hspan
    exact ⟨text, hcovers, congrArg Value.string (Pattern.slice_of_covers hcovers)⟩

/-! ## The table of the groups -/

/-- The table of the groups of a match under their numbers. -/
def numberedTable (bytes : Bytes) (spans : List (Option Span)) : Table :=
  .ofEntries (numberedGroups bytes spans)

/-- The table in which `exec` describes the groups of a match. -/
def describedTable (p : Pattern) (bytes : Bytes) (spans : List (Option Span)) : Table :=
  .ofEntries (numberedGroups bytes spans ++ namedGroups p bytes spans)

/-- A group of a match never stands for nil. -/
theorem bytes_groupValue_ne_nil (bytes : Bytes) (span : Option Span) :
    groupValue bytes span ≠ .nil := by
  cases span <;> nofun

section

variable {p : Pattern} {subject : String} {bytes : Bytes} {spans : List (Option Span)}

/-- The numbered groups are those from one on, each with its value. -/
theorem mem_numberedGroups_iff {e : Key × Value} :
    e ∈ numberedGroups bytes spans ↔
      ∃ i span, 1 ≤ i ∧ spans[i]? = some span ∧
        e = (.integer (Int64.ofNat i), groupValue bytes span) := by
  unfold numberedGroups
  rw [List.mem_mapIdx]
  constructor
  · rintro ⟨i, hi, rfl⟩
    refine ⟨i + 1, spans.tail[i], by omega, ?_, rfl⟩
    rw [← List.getElem?_tail]
    exact List.getElem?_eq_getElem hi
  · rintro ⟨i, span, hpos, hspan, rfl⟩
    obtain ⟨j, rfl⟩ : ∃ j, i = j + 1 := ⟨i - 1, by omega⟩
    rw [← List.getElem?_tail] at hspan
    obtain ⟨hj, hspan⟩ := List.getElem?_eq_some_iff.mp hspan
    exact ⟨j, hj, by rw [hspan]⟩

/-- The numbers of the groups are different keys. -/
theorem distinct_numberedGroups (hlength : spans.length < listBound) :
    ((numberedGroups bytes spans).map (·.1)).Nodup := by
  apply List.pairwise_iff_getElem.mpr
  intro i j hi hj hij
  simp only [numberedGroups, List.length_map, List.length_mapIdx, List.length_tail] at hi hj
  have hne : Key.integer (Int64.ofNat (i + 1)) ≠ .integer (Int64.ofNat (j + 1)) := by
    rw [Ne, integer_ofNat_inj (by omega) (by omega)]
    omega
  simpa [numberedGroups] using hne

/-- The named groups stand under their names. -/
theorem keys_namedGroups :
    (namedGroups p bytes spans).map (·.1) = (p.names.map (·.1)).map Key.text := by
  simp [namedGroups]

/-- Numbers and names are different keys, and no group is nil. -/
theorem proper_describedTable (hp : p.Named) (hm : p.IsMatch subject spans) :
    (describedTable p bytes spans).Proper := by
  have hlength : spans.length < listBound := hm.length ▸ hp.short
  have hnames : ((namedGroups p bytes spans).map (·.1)).Nodup := by
    rw [keys_namedGroups]
    exact List.Pairwise.map Key.text (fun _ _ => mt CaptureSet.text_inj.mp) hp.distinct
  constructor
  · unfold describedTable Table.ofEntries
    rw [List.map_append, List.nodup_append]
    refine ⟨distinct_numberedGroups hlength, hnames, ?_⟩
    intro k hk l hl hkl
    obtain ⟨e, he, rfl⟩ := List.mem_map.mp hk
    obtain ⟨i, span, -, -, rfl⟩ := mem_numberedGroups_iff.mp he
    obtain ⟨d, hd, rfl⟩ := List.mem_map.mp hl
    obtain ⟨name, -, rfl⟩ := List.mem_map.mp hd
    exact CaptureSet.text_ne_integer _ _ hkl.symm
  · intro e he
    rcases List.mem_append.mp he with hnumbered | hnamed
    · obtain ⟨i, span, -, -, rfl⟩ := mem_numberedGroups_iff.mp hnumbered
      exact bytes_groupValue_ne_nil bytes span
    · obtain ⟨name, -, rfl⟩ := List.mem_map.mp hnamed
      exact bytes_groupValue_ne_nil bytes _

/-- A group stands under its number. -/
theorem get_describedTable_integer (hp : p.Named) (hm : p.IsMatch subject spans) {i : Nat}
    {span : Option Span} (hpos : 1 ≤ i) (hspan : spans[i]? = some span) :
    (describedTable p bytes spans).get (.integer (Int64.ofNat i)) = groupValue bytes span := by
  have hmem : (Key.integer (Int64.ofNat i), groupValue bytes span) ∈
      (describedTable p bytes spans).entries :=
    List.mem_append_left _ (mem_numberedGroups_iff.mpr ⟨i, span, hpos, hspan, rfl⟩)
  exact Table.get_of_mem (proper_describedTable hp hm).distinct hmem

/-- A group that has a name stands under it too. -/
theorem get_describedTable_text (hp : p.Named) (hm : p.IsMatch subject spans)
    {name : String × Nat} (hname : name ∈ p.names) :
    (describedTable p bytes spans).get (.text name.1) =
      groupValue bytes (spans[name.2]?.getD none) := by
  have hmem : (Key.text name.1, groupValue bytes (spans[name.2]?.getD none)) ∈
      (describedTable p bytes spans).entries :=
    List.mem_append_right _ (List.mem_map.mpr ⟨name, hname, rfl⟩)
  exact Table.get_of_mem (proper_describedTable hp hm).distinct hmem

/-- The keys of the numbered groups are the numbers from one on up to that of groups. -/
theorem hasKey_numberedTable_iff (hm : p.IsMatch subject spans) (k : Key) :
    (numberedTable bytes spans).HasKey k ↔
      ∃ i, 1 ≤ i ∧ i ≤ p.groups ∧ k = .integer (Int64.ofNat i) := by
  constructor
  · intro hk
    obtain ⟨e, he, rfl⟩ := List.mem_map.mp hk
    obtain ⟨i, span, hpos, hspan, rfl⟩ := mem_numberedGroups_iff.mp he
    have hi : i < spans.length := (List.getElem?_eq_some_iff.mp hspan).1
    rw [hm.length] at hi
    exact ⟨i, hpos, by omega, rfl⟩
  · rintro ⟨i, hpos, hle, rfl⟩
    have hi : i < spans.length := by
      rw [hm.length]
      omega
    exact List.mem_map.mpr ⟨_, mem_numberedGroups_iff.mpr
      ⟨i, spans[i], hpos, List.getElem?_eq_getElem hi, rfl⟩, rfl⟩

variable (p bytes spans)

/-- The keys are the numbers of the groups and their names. -/
theorem hasKey_describedTable_iff (k : Key) :
    (describedTable p bytes spans).HasKey k ↔
      (numberedTable bytes spans).HasKey k ∨ ∃ name ∈ p.names, k = .text name.1 := by
  have hnames : k ∈ (namedGroups p bytes spans).map (·.1) ↔
      ∃ name ∈ p.names, k = .text name.1 := by
    simp [keys_namedGroups, eq_comm]
  unfold Table.HasKey describedTable numberedTable Table.ofEntries
  rw [List.map_append, List.mem_append, hnames]

end

/-- The description of a match is its place and a new table with its groups. -/
theorem run_describeMatch (p : Pattern) (bytes : Bytes) (spans : List (Option Span)) (vm : Vm) :
    ∃ t vm', Machine.run (describeMatch p bytes spans) vm =
        (.ok [.integer (Int64.ofNat ((Pattern.wholeSpan spans).1 + 1)),
          .integer (Int64.ofNat (Pattern.wholeSpan spans).2), t], vm') ∧
      vm.Grows vm' ∧ vm'.Holds t (describedTable p bytes spans) := by
  obtain ⟨t, vm', hnew, hgrows, hholds⟩ := newTable_spec (describedTable p bytes spans) vm
  refine ⟨t, vm', ?_, hgrows, hholds⟩
  unfold describeMatch
  exact Machine.run_bind_of_ok hnew _

/-! ## Calls of the methods -/

namespace PatternMethod

/-- The first two arguments of a method are a pattern of the machine and a subject. -/
structure Receives (vm : Vm) (args : List Value) (p : Pattern) (subject : String) : Prop where
  object : ∃ ref, args[0]? = some (.object ref) ∧ vm.objects[ref]? = some (.pattern p)
  text : Value.toText? (args[1]?.getD .nil) = some subject

variable {call : Caller} {site : Site} {args : List Value} {vm : Vm} {p : Pattern}
  {subject : String}

/-- A method goes on with the pattern and the subject that it receives. -/
theorem run_of_receives (h : Receives vm args p subject) (m : PatternMethod) :
    Machine.run (m.run call site args) vm = Machine.run (match m with
      | .exec => do
        let first ← converted site args 3 (Value.toOptional? (Value.toNat? UInt64.size))
        execResults p subject first
      | .match_ => do
        let first ← converted site args 3 (Value.toOptional? (Value.toNat? UInt64.size))
        pure (matchResults p subject first)
      | .gmatch => do
        let f ← converted site args 3 function?
        let count ← eachMatch call site (textBytes subject) f 0 (p.matchesOf subject)
        pure [.integer (Int64.ofNat count)]) vm := by
  obtain ⟨ref, hself, hobject⟩ := h.object
  have hself : (args[1 - 1]?.getD .nil) = .object ref := by
    rw [Nat.sub_self, hself]
    rfl
  unfold PatternMethod.run
  refine (Machine.run_bind_of_ok (Machine.run_get vm) _).trans ?_
  refine (Machine.run_bind_of_ok (run_converted (a := p) ?_ site vm) _).trans ?_
  · rw [hself]
    dsimp only
    rw [hobject]
  refine (Machine.run_bind_of_ok (run_converted h.text site vm) _).trans ?_
  cases m <;> rfl

section

variable {first : Option Nat}
  (hfirst : Value.toOptional? (Value.toNat? UInt64.size) (args[2]?.getD .nil) = some first)

include hfirst

/-- What `exec` gives for its arguments. -/
theorem run_exec (h : Receives vm args p subject) :
    Machine.run (PatternMethod.exec.run call site args) vm =
      Machine.run (execResults p subject first) vm := by
  rw [run_of_receives h]
  exact Machine.run_bind_of_ok (run_converted hfirst site vm) _

/-- What `match` gives for its arguments, with the machine left as it is. -/
theorem run_match (h : Receives vm args p subject) :
    Machine.run (PatternMethod.match_.run call site args) vm =
      (.ok (matchResults p subject first), vm) := by
  rw [run_of_receives h]
  exact Machine.run_bind_of_ok (run_converted hfirst site vm) _

end

/-- What the two methods tell of a match: the place `s` of its first byte, counted from one, and
that of its last byte `e`, which is in front of `s` if the match is empty; the table of its groups;
and their texts. -/
structure Tells (p : Pattern) (subject : String) (spans : List (Option Span)) (s e : Nat)
    (table : Table) (texts : List Value) : Prop where
  first : 1 ≤ s
  ordered : s ≤ e + 1
  inside : e ≤ (textBytes subject).length
  whole : spans.head? = some (some (s - 1, e))
  /-- The two places are given exactly, if they can be counted by a script at all. -/
  exact : (textBytes subject).length + 1 < listBound →
    (Int64.ofNat s).toInt = s ∧ (Int64.ofNat e).toInt = e
  /-- The keys are the numbers of the groups and their names, and no others. -/
  keys : ∀ k, table.HasKey k ↔
    (∃ i, 1 ≤ i ∧ i ≤ p.groups ∧ k = .integer (Int64.ofNat i)) ∨ ∃ name ∈ p.names, k = .text name.1
  groups : ∀ i, 1 ≤ i → i ≤ p.groups → ∃ span, spans[i]? = some span ∧
    TellsGroup subject span (table.get (.integer (Int64.ofNat i)))
  names : ∀ name ∈ p.names,
    table.get (.text name.1) = table.get (.integer (Int64.ofNat name.2))
  /-- With groups, the texts are the values under their numbers, in order. -/
  listed : 0 < p.groups →
    texts = (List.range' 1 p.groups).map fun i => table.get (.integer (Int64.ofNat i))
  /-- Without groups, the one text is that of the match. -/
  alone : p.groups = 0 → ∃ text, Pattern.Covers subject (s - 1, e) text ∧ texts = [.text text]

/-! ## One match -/

variable {spans : List (Option Span)}

/-- What `match` gives for a match. -/
theorem matchResults_of_some {first : Option Nat} (hm : p.IsMatch subject spans)
    (hfound : p.spans? subject (searchStart first (textBytes subject).length) = some spans) :
    matchResults p subject first =
      if p.groups = 0 then [.string (slice (textBytes subject) (Pattern.wholeSpan spans))]
      else spans.tail.map (groupValue (textBytes subject)) := by
  have hlength := hm.length
  unfold matchResults
  dsimp only
  rw [hfound]
  -- There is no group exactly if the span of the whole match is the only one.
  match spans with
  | [] => cases hlength
  | [whole] =>
    rw [if_pos (by simpa using hlength.symm)]
    rfl
  | whole :: group :: rest =>
    rw [if_neg (by simp at hlength; omega)]

/-- The two methods tell of the match that they find. -/
theorem tells_of_isMatch {first : Option Nat} (hp : p.Named)
    (hm : p.IsMatch subject spans)
    (hfound : p.spans? subject (searchStart first (textBytes subject).length) = some spans) :
    Tells p subject spans ((Pattern.wholeSpan spans).1 + 1) (Pattern.wholeSpan spans).2
      (describedTable p (textBytes subject) spans) (matchResults p subject first) := by
  have hhead := hm.head?_eq
  obtain ⟨hordered, -, hlast⟩ := hm.inside _ (List.mem_of_head? hhead)
  have hinside := hlast.le
  have hgroup : ∀ i, 1 ≤ i → i ≤ p.groups → ∃ span, spans[i]? = some span ∧
      (describedTable p (textBytes subject) spans).get (.integer (Int64.ofNat i)) =
        groupValue (textBytes subject) span := by
    intro i hpos hle
    have hi : i < spans.length := by
      rw [hm.length]
      omega
    have hspan : spans[i]? = some spans[i] := List.getElem?_eq_getElem hi
    exact ⟨spans[i], hspan, get_describedTable_integer hp hm hpos hspan⟩
  refine
    { first := by omega
      ordered := by omega
      inside := hinside
      whole := by rw [hhead, Nat.add_sub_cancel]
      exact := ?_
      keys := fun k => by rw [hasKey_describedTable_iff, hasKey_numberedTable_iff hm]
      groups := ?_
      names := ?_
      listed := ?_
      alone := ?_ }
  · intro hsmall
    unfold listBound at hsmall
    exact ⟨Int64.toInt_ofNat_of_lt (by omega), Int64.toInt_ofNat_of_lt (by omega)⟩
  · intro i hpos hle
    obtain ⟨span, hspan, hvalue⟩ := hgroup i hpos hle
    rw [hvalue]
    exact ⟨span, hspan, tellsGroup_groupValue hm (List.mem_of_getElem? hspan)⟩
  · intro name hname
    obtain ⟨hpos, hle⟩ := hp.numbered name hname
    obtain ⟨span, hspan, hvalue⟩ := hgroup name.2 hpos hle
    rw [hvalue, get_describedTable_text hp hm hname, hspan]
    rfl
  · intro hsome
    rw [matchResults_of_some hm hfound, if_neg (by omega)]
    apply List.ext_getElem
    · simp [hm.length]
    · intro i hi _
      rw [List.length_map, List.length_tail, hm.length] at hi
      obtain ⟨span, hspan, hvalue⟩ := hgroup (i + 1) (by omega) (by omega)
      obtain ⟨_, hspan⟩ := List.getElem?_eq_some_iff.mp hspan
      rw [List.getElem_map, List.getElem_map, List.getElem_range', List.getElem_tail, hspan,
        Nat.one_mul, Nat.add_comm 1 i, hvalue]
  · intro hnone
    obtain ⟨text, hcovers⟩ := hm.exists_text
    refine ⟨text, hcovers, ?_⟩
    rw [matchResults_of_some hm hfound, if_pos hnone, Pattern.slice_of_covers hcovers]
    rfl

/-- The results for a match are never nil alone. -/
theorem matchResults_ne_nil {first : Option Nat} (hm : p.IsMatch subject spans)
    (hfound : p.spans? subject (searchStart first (textBytes subject).length) = some spans) :
    matchResults p subject first ≠ [.nil] := by
  rw [matchResults_of_some hm hfound]
  split
  · nofun
  · intro hnil
    have hmem : Value.nil ∈ spans.tail.map (groupValue (textBytes subject)) := by
      rw [hnil]
      exact List.mem_singleton_self _
    obtain ⟨span, -, hspan⟩ := List.mem_map.mp hmem
    exact bytes_groupValue_ne_nil _ span hspan

/-- `exec` and `match` tell of one match. Both search from the same place, which is inside of the
subject wherever the search is asked to begin. If nothing is found both give nil; otherwise neither
does, and both tell of the match that is found. -/
theorem exec_and_match_tell_of_one_match {first : Option Nat} (hp : p.Named)
    (hfinds : p.Finds subject) (hargs : Receives vm args p subject)
    (hfirst : Value.toOptional? (Value.toNat? UInt64.size) (args[2]?.getD .nil) = some first)
    (call : Caller) (site : Site) :
    let start := searchStart first (textBytes subject).length
    let exec := Machine.run (PatternMethod.exec.run call site args) vm
    let match_ := Machine.run (PatternMethod.match_.run call site args) vm
    start ≤ (textBytes subject).length ∧
    (p.spans? subject start = none → exec = (.ok [.nil], vm) ∧ match_ = (.ok [.nil], vm)) ∧
    (∀ spans, p.spans? subject start = some spans →
      ∃ s e t vm' table texts,
        exec = (.ok [.integer (Int64.ofNat s), .integer (Int64.ofNat e), t], vm') ∧
        vm.Grows vm' ∧ vm'.Holds t table ∧ match_ = (.ok texts, vm) ∧
        Tells p subject spans s e table texts) ∧
    (exec.1 = .ok [.nil] ↔ match_.1 = .ok [.nil]) := by
  intro start exec match_
  have hinside : start ≤ (textBytes subject).length := Nat.min_le_right _ _
  have hexec : exec = Machine.run (execResults p subject first) vm := run_exec hfirst hargs
  have hmatch : match_ = (.ok (matchResults p subject first), vm) := run_match hfirst hargs
  have hnone : p.spans? subject start = none →
      exec = (.ok [.nil], vm) ∧ match_ = (.ok [.nil], vm) := by
    intro hnot
    rw [hexec, hmatch]
    unfold execResults matchResults
    dsimp only
    rw [hnot]
    exact ⟨rfl, rfl⟩
  have hsome : ∀ spans, p.spans? subject start = some spans →
      ∃ s e t vm' table texts,
        exec = (.ok [.integer (Int64.ofNat s), .integer (Int64.ofNat e), t], vm') ∧
        vm.Grows vm' ∧ vm'.Holds t table ∧ match_ = (.ok texts, vm) ∧
        Tells p subject spans s e table texts := by
    intro spans hfound
    have htells := tells_of_isMatch hp (hfinds start spans hinside hfound) hfound
    obtain ⟨t, vm', hrun, hgrows, hholds⟩ := run_describeMatch p (textBytes subject) spans vm
    refine ⟨_, _, t, vm', _, _, ?_, hgrows, hholds, hmatch, htells⟩
    rw [hexec, ← hrun]
    unfold execResults
    dsimp only
    rw [hfound]
  refine ⟨hinside, hnone, hsome, ?_⟩
  cases hfound : p.spans? subject start with
  | none =>
    obtain ⟨hexec, hmatch⟩ := hnone hfound
    rw [hexec, hmatch]
  | some spans =>
    obtain ⟨s, e, t, vm', table, texts, hexec, -⟩ := hsome spans hfound
    have hsome : matchResults p subject first ≠ [.nil] :=
      matchResults_ne_nil (hfinds start spans hinside hfound) hfound
    rw [hexec, hmatch]
    refine iff_of_false nofun ?_
    intro hnil
    exact hsome (Except.ok.inj hnil)

/-- The pattern `(?<a>x)(y)?`. -/
def tagged : Pattern :=
  .ofNode (.concat [.group 1 (.one (.single 'x')),
    .repeated 0 (some 1) true (.group 2 (.one (.single 'y')))]) [("a", 1)]

/-- A machine that has this pattern as its only object. -/
def tagging : Vm := { Vm.fresh with objects := #[.pattern tagged] }

/-- The names of this pattern are those of its groups. -/
theorem named_tagged : tagged.Named := by
  constructor <;> decide +kernel

/-- The match in a text with a character of two bytes in front of an `x`. -/
theorem isMatch_tagged : tagged.IsMatch "éx" [some (2, 3), some (2, 3), none] := by
  refine ⟨rfl, nofun, ?_⟩
  intro span hspan
  obtain rfl : span = (2, 3) := by simpa using hspan
  exact ⟨by decide, ⟨"é", "x", by decide, by decide⟩, ⟨"éx", "", by decide, by decide⟩⟩

/-- What this pattern finds in that text are matches. -/
theorem finds_tagged : tagged.Finds "éx" := by
  have hplace : ∀ place < 4, tagged.spans? "éx" place =
      if place ≤ 2 then some [some (2, 3), some (2, 3), none] else none := by
    decide +kernel
  intro place spans hle hfound
  have hlt : place < 4 := Nat.lt_succ_of_le hle
  rw [hplace place hlt] at hfound
  split at hfound
  · cases hfound
    exact isMatch_tagged
  · cases hfound

/-- Both methods tell of the match if they are asked for the first one, and give nil if the search
is to begin behind the end. -/
theorem exec_and_match_tell_of_one_match_tagged :
    (∃ s e t vm' table texts,
      Machine.run (PatternMethod.exec.run invoke .outside [.object 0, .text "éx"]) tagging =
        (.ok [.integer (Int64.ofNat s), .integer (Int64.ofNat e), t], vm') ∧
      vm'.Holds t table ∧
      Machine.run (PatternMethod.match_.run invoke .outside [.object 0, .text "éx"]) tagging =
        (.ok texts, tagging) ∧
      Tells tagged "éx" [some (2, 3), some (2, 3), none] s e table texts) ∧
    Machine.run (PatternMethod.exec.run invoke .outside [.object 0, .text "éx", .integer 100])
      tagging = (.ok [.nil], tagging) := by
  have htext : Value.toText? (.text "éx") = some "éx" := by decide +kernel
  constructor
  · have hargs : Receives tagging [.object 0, .text "éx"] tagged "éx" := ⟨⟨0, rfl, rfl⟩, htext⟩
    have hfirst : Value.toOptional? (Value.toNat? UInt64.size) .nil = some none := rfl
    obtain ⟨-, -, hsome, -⟩ := exec_and_match_tell_of_one_match named_tagged finds_tagged hargs
      hfirst invoke .outside
    obtain ⟨s, e, t, vm', table, texts, hexec, -, hholds, hmatch, htells⟩ :=
      hsome [some (2, 3), some (2, 3), none] (by decide +kernel)
    exact ⟨s, e, t, vm', table, texts, hexec, hholds, hmatch, htells⟩
  · have hargs : Receives tagging [.object 0, .text "éx", .integer 100] tagged "éx" :=
      ⟨⟨0, rfl, rfl⟩, htext⟩
    have hfirst : Value.toOptional? (Value.toNat? UInt64.size) (.integer 100) =
        some (some 100) := by
      decide +kernel
    obtain ⟨-, hnone, -, -⟩ := exec_and_match_tell_of_one_match named_tagged finds_tagged hargs
      hfirst invoke .outside
    exact (hnone (by decide +kernel)).1

end PatternMethod

end Script

end EventScripts
