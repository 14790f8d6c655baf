import EventScripts.Proofs.CallArguments
import EventScripts.Proofs.ListTables

/-!
# The table of the captures

The names of a capture set are set one after the other over the numbered groups, and a later entry
may overwrite, erase or be skipped. What comes out is settled by one entry for each name: the very
last one, or, if names may repeat, the last one whose number is that of a group. Numbers and names
are different keys, so the groups stay under their numbers whatever the names are.
-/

set_option autoImplicit false

namespace EventScripts

open Script

namespace Script.Table

/-- The table has an entry for a key. -/
def HasKey (t : Table) (k : Key) : Prop := k ∈ t.entries.map (·.1)

/-- A table that has at most one entry for each key, and none that holds nil. -/
structure Proper (t : Table) : Prop where
  distinct : (t.entries.map (·.1)).Nodup
  present : ∀ e ∈ t.entries, e.2 ≠ .nil

/-- Such a table has the keys that it does not give nil for. -/
theorem Proper.hasKey_iff {t : Table} (h : t.Proper) (k : Key) : t.HasKey k ↔ t.get k ≠ .nil := by
  constructor
  · intro hkey
    obtain ⟨e, he, rfl⟩ := List.mem_map.mp hkey
    rw [get_of_mem h.distinct he]
    exact h.present e he
  · exact fun hget => List.mem_map.mpr ⟨_, mem_entries_of_get hget, rfl⟩

/-- An entry after a key was put is the new one or an old one. -/
theorem mem_put {k : Key} {v : Value} {es : List (Key × Value)} {e : Key × Value}
    (h : e ∈ put k v es) : e = (k, v) ∨ e ∈ es := by
  induction es with
  | nil => simpa [put] using h
  | cons d es ih =>
    obtain ⟨l, w⟩ := d
    unfold put at h
    split at h
    · exact (List.mem_cons.mp h).imp_right (List.mem_cons_of_mem _)
    · rcases List.mem_cons.mp h with rfl | hrest
      · exact .inr List.mem_cons_self
      · exact (ih hrest).imp_right (List.mem_cons_of_mem _)

/-- The keys stay distinct when one is put. -/
theorem distinct_put {k : Key} {v : Value} {es : List (Key × Value)}
    (h : (es.map (·.1)).Nodup) : ((put k v es).map (·.1)).Nodup := by
  induction es with
  | nil => simp [put]
  | cons d es ih =>
    obtain ⟨l, w⟩ := d
    rw [List.map_cons, List.nodup_cons] at h
    unfold put
    by_cases hlk : l = k
    · rw [if_pos (by simpa using hlk), List.map_cons, List.nodup_cons, ← hlk]
      exact h
    · rw [if_neg (by simpa using hlk), List.map_cons, List.nodup_cons]
      refine ⟨fun hmem => ?_, ih h.2⟩
      obtain ⟨e, he, hel⟩ := List.mem_map.mp hmem
      rcases mem_put he with rfl | hrest
      · exact hlk hel.symm
      · exact h.1 (hel ▸ List.mem_map_of_mem hrest)

/-- Setting a value, nil included, keeps a table proper. -/
theorem Proper.set {t : Table} (h : t.Proper) (k : Key) (v : Value) : (t.set k v).Proper := by
  have hput : v ≠ .nil → ({ t with entries := put k v t.entries } : Table).Proper := by
    intro hv
    refine ⟨distinct_put h.distinct, fun e he => ?_⟩
    rcases mem_put he with rfl | hrest
    · exact hv
    · exact h.present e hrest
  cases v with
  | nil =>
    refine ⟨h.distinct.sublist (List.filter_sublist.map _), fun e he => ?_⟩
    exact h.present e (List.mem_of_mem_filter he)
  | _ => exact hput nofun

end Script.Table

namespace CaptureSet

/-- What stands for the group with a number, nil if there is no such group. -/
def valueAt (set : CaptureSet) (index : Int) : Value :=
  match set.group index with
  | some g => groupValue g
  | none => .nil

/-- The entries of a name, in their order. -/
def entriesOf (set : CaptureSet) (name : String) : List GroupName :=
  set.names.filter (·.name == name)

/-- The number of an entry is that of a group. -/
def InRange (set : CaptureSet) (entry : GroupName) : Prop := (set.group entry.index).isSome

instance (set : CaptureSet) : DecidablePred set.InRange :=
  fun entry => inferInstanceAs (Decidable ((set.group entry.index).isSome = true))

/-- An entry has a say in what its name stands for: if names may repeat, only when it is in
range. -/
def HasSay (set : CaptureSet) (entry : GroupName) : Prop :=
  set.duplicateNames = true → set.InRange entry

instance (set : CaptureSet) : DecidablePred set.HasSay :=
  fun entry => inferInstanceAs (Decidable (_ → set.InRange entry))

/-- The last entry of a name that has a say. -/
def settling? (set : CaptureSet) (names : List GroupName) (name : String) : Option GroupName :=
  (names.filter fun entry => entry.name = name ∧ set.HasSay entry).getLast?

/-- The numbered groups, before any name is set. -/
def groupTable (set : CaptureSet) : Table := ⟨set.groupEntries, set.groups.length, none⟩

/-- A group never stands for nil, matched or not. -/
theorem groupValue_ne_nil (g : Option String) : groupValue g ≠ .nil := by
  cases g <;> nofun

/-- A number of a group stands for this group. -/
theorem valueAt_of_group {set : CaptureSet} {index : Int} {g : Option String}
    (h : set.group index = some g) : set.valueAt index = groupValue g := by
  unfold valueAt
  rw [h]

/-- An entry in range names a group by its place, and stands for it. -/
theorem valueAt_of_inRange {set : CaptureSet} {entry : GroupName} (h : set.InRange entry) :
    ∃ i g, entry.index = Int.ofNat i ∧ set.groups[i]? = some g ∧
      set.valueAt entry.index = groupValue g := by
  obtain ⟨g, hg⟩ := Option.isSome_iff_exists.mp h
  have hvalue : set.valueAt entry.index = groupValue g := valueAt_of_group hg
  unfold group at hg
  split at hg
  · cases hg
  · exact ⟨entry.index.toNat, g, (Int.toNat_of_nonneg (by omega)).symm, hg, hvalue⟩

/-- An entry out of range stands for nil. -/
theorem valueAt_of_not_inRange {set : CaptureSet} {entry : GroupName}
    (h : ¬ set.InRange entry) : set.valueAt entry.index = .nil := by
  have hnone : set.group entry.index = none := by simpa [InRange] using h
  unfold valueAt
  rw [hnone]

/-! ## One entry after the other -/

/-- The table after one entry, when the names `seen` came before it. -/
def setName (set : CaptureSet) (seen : List String) (entry : GroupName) (t : Table) : Table :=
  if set.duplicateNames && seen.contains entry.name && (set.group entry.index).isNone then t
  else t.set (.text entry.name) (set.valueAt entry.index)

/-- The names are set one after the other. -/
theorem setNames_cons (set : CaptureSet) (seen : List String) (entry : GroupName)
    (rest : List GroupName) (t : Table) :
    set.setNames seen (entry :: rest) t =
      set.setNames (entry.name :: seen) rest (set.setName seen entry t) := by
  rfl

/-- A name that was not there before has no value yet. -/
def Unset (seen : List String) (t : Table) : Prop :=
  ∀ name ∉ seen, t.get (.text name) = .nil

/-- Keys of different names are different. -/
theorem text_inj {a b : String} : Key.text a = Key.text b ↔ a = b :=
  ⟨fun h => textBytes_inj (Key.string.inj h), fun h => h ▸ rfl⟩

/-- The key of a name is no number. -/
theorem text_ne_integer (name : String) (i : Int64) : Key.text name ≠ .integer i := by
  unfold Key.text
  nofun

/-- One entry changes what its name stands for if it has a say, and nothing else. An entry without
a say erases at most what was not there. -/
theorem get_setName {set : CaptureSet} {seen : List String} {t : Table} (hunset : Unset seen t)
    (entry : GroupName) (name : String) :
    (set.setName seen entry t).get (.text name) =
      if entry.name = name ∧ set.HasSay entry then set.valueAt entry.index
      else t.get (.text name) := by
  unfold setName
  split
  next hskipped =>
    -- Skipped entries are out of range where names may repeat.
    have hsilent : ¬ set.HasSay entry := by
      simp only [Bool.and_eq_true] at hskipped
      intro hsay
      have hrange := hsay hskipped.1.1
      simp [InRange, Option.isNone_iff_eq_none.mp hskipped.2] at hrange
    rw [if_neg fun h => hsilent h.2]
  next hset =>
    rw [Table.get_set]
    by_cases hname : entry.name = name
    · rw [if_pos (text_inj.mpr hname)]
      by_cases hsay : set.HasSay entry
      · rw [if_pos ⟨hname, hsay⟩]
      · -- The first entry of the name is out of range: nil is set where nil was.
        obtain ⟨hrepeat, hrange⟩ := Classical.not_imp.mp hsay
        have hfirst : name ∉ seen := by
          intro hseen
          apply hset
          have hnone : set.group entry.index = none := by simpa [InRange] using hrange
          simp [hrepeat, hname, hseen, hnone]
        rw [if_neg fun h => hsay h.2, hunset name hfirst, valueAt_of_not_inRange hrange]
    · rw [if_neg (mt text_inj.mp hname), if_neg fun h => hname h.1]

/-- After an entry only its name may have got a value. -/
theorem Unset.setName {set : CaptureSet} {seen : List String} {t : Table} (h : Unset seen t)
    (entry : GroupName) : Unset (entry.name :: seen) (set.setName seen entry t) := by
  intro name hname
  rw [List.mem_cons, not_or] at hname
  rw [get_setName h, if_neg fun hsame => hname.1 hsame.1.symm]
  exact h name hname.2

/-- The first entry settles a name if it has a say and no later one settles it. -/
theorem settling?_cons (set : CaptureSet) (entry : GroupName) (rest : List GroupName)
    (name : String) :
    set.settling? (entry :: rest) name =
      (set.settling? rest name).or
        (if entry.name = name ∧ set.HasSay entry then some entry else none) := by
  unfold settling?
  by_cases hsay : entry.name = name ∧ set.HasSay entry
  · rw [List.filter_cons_of_pos (by simpa using hsay), if_pos hsay, List.getLast?_cons]
    cases List.getLast? _ <;> rfl
  · rw [List.filter_cons_of_neg (by simpa using hsay), if_neg hsay, Option.or_none]

/-- After all entries a name stands for the group of the last entry that has a say, and for what
it stood for before if there is none. -/
theorem get_setNames (set : CaptureSet) (name : String) (names : List GroupName) :
    ∀ {seen : List String} {t : Table}, Unset seen t →
      (set.setNames seen names t).get (.text name) =
        match set.settling? names name with
        | some entry => set.valueAt entry.index
        | none => t.get (.text name) := by
  induction names with
  | nil => exact fun _ => rfl
  | cons entry rest ih =>
    intro seen t hunset
    rw [setNames_cons, ih (hunset.setName entry), settling?_cons, get_setName hunset]
    cases set.settling? rest name with
    | some last => rfl
    | none =>
      rw [Option.none_or]
      by_cases hsay : entry.name = name ∧ set.HasSay entry
      · rw [if_pos hsay, if_pos hsay]
      · rw [if_neg hsay, if_neg hsay]

/-- What one entry does not name is left alone by all of them. -/
theorem get_setNames_of_ne (set : CaptureSet) {k : Key} (names : List GroupName)
    (hne : ∀ entry ∈ names, Key.text entry.name ≠ k) (seen : List String) (t : Table) :
    (set.setNames seen names t).get k = t.get k := by
  induction names generalizing seen t with
  | nil => rfl
  | cons entry rest ih =>
    rw [setNames_cons, ih fun e he => hne e (List.mem_cons_of_mem _ he)]
    unfold setName
    split
    · rfl
    · rw [Table.get_set, if_neg (hne entry List.mem_cons_self)]

/-- Entries keep a table proper and give it no metatable. -/
theorem proper_setNames (set : CaptureSet) (names : List GroupName) (seen : List String)
    {t : Table} (h : t.Proper) :
    (set.setNames seen names t).Proper ∧
      (set.setNames seen names t).metatable = t.metatable := by
  induction names generalizing seen t with
  | nil => exact ⟨h, rfl⟩
  | cons entry rest ih =>
    have hentry : (set.setName seen entry t).Proper ∧
        (set.setName seen entry t).metatable = t.metatable := by
      unfold setName
      split
      · exact ⟨h, rfl⟩
      · exact ⟨h.set _ _, Table.metatable_set t _ _⟩
    rw [setNames_cons]
    obtain ⟨hproper, hmetatable⟩ := ih (entry.name :: seen) hentry.1
    exact ⟨hproper, hmetatable.trans hentry.2⟩

/-! ## The numbered groups -/

/-- The numbered groups as values numbered from zero. -/
theorem groupEntries_eq (set : CaptureSet) :
    set.groupEntries = (set.groups.map groupValue).mapIdx
      fun i v => (Key.integer (Int64.ofNat (i + 0)), v) := by
  apply List.ext_getElem
  · simp [groupEntries]
  · intro i _ _
    simp [groupEntries]

/-- The numbered groups stand under numbers from zero on, and none of them is nil. -/
theorem mem_groupEntries {set : CaptureSet} {e : Key × Value} (h : e ∈ set.groupEntries) :
    ∃ i < set.groups.length, e.1 = .integer (Int64.ofNat i) ∧ e.2 ≠ .nil := by
  obtain ⟨i, hi, rfl⟩ := List.mem_mapIdx.mp h
  exact ⟨i, hi, rfl, groupValue_ne_nil _⟩

/-- A group stands under its number. -/
theorem get_groupTable {set : CaptureSet} (h : set.groups.length < listBound) {i : Nat}
    {g : Option String} (hg : set.groups[i]? = some g) :
    set.groupTable.get (.integer (Int64.ofNat i)) = groupValue g := by
  have hi : i < set.groups.length := (List.getElem?_eq_some_iff.mp hg).1
  unfold groupTable Table.get
  dsimp only
  rw [groupEntries_eq, Table.find_numbered _ (by omega) (by simpa using h), if_pos (Nat.zero_le i),
    Nat.sub_zero, List.getElem?_map, hg]
  rfl

/-- Nothing but the number of a group is a key of the numbered groups. -/
theorem get_groupTable_of_ne {set : CaptureSet} {k : Key}
    (h : ∀ i < set.groups.length, k ≠ .integer (Int64.ofNat i)) :
    set.groupTable.get k = .nil := by
  have hfind : set.groupEntries.find? (·.1 == k) = none := by
    rw [List.find?_eq_none]
    intro e he
    obtain ⟨i, hi, hkey, _⟩ := mem_groupEntries he
    simpa [hkey] using (h i hi).symm
  unfold groupTable Table.get
  dsimp only
  rw [hfind]

/-- The numbered groups are a proper table. -/
theorem proper_groupTable {set : CaptureSet} (h : set.groups.length < listBound) :
    set.groupTable.Proper := by
  constructor
  · apply List.pairwise_iff_getElem.mpr
    intro i j hi hj hij
    simp only [groupTable, groupEntries, List.length_map, List.length_mapIdx] at hi hj
    have hne : Key.integer (Int64.ofNat i) ≠ .integer (Int64.ofNat j) := by
      rw [Ne, integer_ofNat_inj (by omega) (by omega)]
      omega
    simpa [groupTable, groupEntries] using hne
  · intro e he
    obtain ⟨_, _, _, hvalue⟩ := mem_groupEntries he
    exact hvalue

/-! ## The closed form -/

/-- What the table of a capture set holds, and that it holds nothing else. -/
structure Tabulates (set : CaptureSet) (t : Table) : Prop where
  /-- Under its number a group that matched has its text. -/
  matched : ∀ i text, set.groups[i]? = some (some text) →
    t.get (.integer (Int64.ofNat i)) = .text text
  /-- Under its number a group that took no part has `false`. -/
  unmatched : ∀ i, set.groups[i]? = some none →
    t.get (.integer (Int64.ofNat i)) = .boolean false
  /-- If names may repeat, a name has the group of its last entry in range, -/
  repeated : set.duplicateNames = true → ∀ name entry,
    ((set.entriesOf name).filter set.InRange).getLast? = some entry →
    ∃ g, set.group entry.index = some g ∧ t.get (.text name) = groupValue g
  /-- and is no key if it has none. -/
  repeatedAbsent : set.duplicateNames = true → ∀ name,
    (∀ entry ∈ set.entriesOf name, ¬ set.InRange entry) → ¬ t.HasKey (.text name)
  /-- If names may not repeat, a name has the group of its very last entry, -/
  single : set.duplicateNames = false → ∀ name entry g,
    (set.entriesOf name).getLast? = some entry → set.group entry.index = some g →
    t.get (.text name) = groupValue g
  /-- and is no key if that one is out of range. -/
  singleAbsent : set.duplicateNames = false → ∀ name entry,
    (set.entriesOf name).getLast? = some entry → ¬ set.InRange entry → ¬ t.HasKey (.text name)
  /-- With all its entries in range a name has what stands under the number of the last one. -/
  settled : ∀ name entry, (set.entriesOf name).getLast? = some entry →
    (∀ other ∈ set.entriesOf name, set.InRange other) →
    t.get (.text name) = t.get (.integer (Int64.ofInt entry.index))
  /-- The names change nothing that stands under a number. -/
  numbered : ∀ i, t.get (.integer i) = set.groupTable.get (.integer i)
  /-- The keys are numbers of groups and names. -/
  keys : ∀ k, t.HasKey k → (∃ i < set.groups.length, k = .integer (Int64.ofNat i)) ∨
    ∃ entry ∈ set.names, k = .text entry.name
  proper : t.Proper
  plain : t.metatable = none

/-- Where names may repeat, the last entry in range settles a name. -/
theorem settling?_of_repeated {set : CaptureSet} (h : set.duplicateNames = true) (name : String) :
    set.settling? set.names name = ((set.entriesOf name).filter set.InRange).getLast? := by
  unfold settling? entriesOf
  rw [List.filter_filter]
  congr 2
  funext entry
  simp [HasSay, h, Bool.beq_eq_decide_eq, Bool.and_comm]

/-- Where names may not repeat, the last entry settles a name. -/
theorem settling?_of_single {set : CaptureSet} (h : set.duplicateNames = false) (name : String) :
    set.settling? set.names name = (set.entriesOf name).getLast? := by
  unfold settling? entriesOf
  congr 2
  funext entry
  simp [HasSay, h, Bool.beq_eq_decide_eq]

/-- No name has a value before the first one is set. -/
theorem unset_groupTable (set : CaptureSet) : Unset [] set.groupTable :=
  fun name _ => get_groupTable_of_ne fun i _ => text_ne_integer name (Int64.ofNat i)

/-- In the table of a capture set a name stands for the group of the entry that settles it, -/
theorem get_table_of_settled {set : CaptureSet} {name : String} {entry : GroupName}
    (h : set.settling? set.names name = some entry) :
    set.table.get (.text name) = set.valueAt entry.index := by
  have hnames := get_setNames set name set.names set.unset_groupTable
  rwa [h] at hnames

/-- and for nothing if there is no such entry. -/
theorem get_table_of_unsettled {set : CaptureSet} {name : String}
    (h : set.settling? set.names name = none) : set.table.get (.text name) = .nil := by
  have hnames := get_setNames set name set.names set.unset_groupTable
  rw [h] at hnames
  exact hnames.trans (set.unset_groupTable name List.not_mem_nil)

/-- Names leave the numbered groups alone. -/
theorem get_table_integer (set : CaptureSet) (i : Int64) :
    set.table.get (.integer i) = set.groupTable.get (.integer i) :=
  get_setNames_of_ne set set.names (fun entry _ => text_ne_integer entry.name i) [] set.groupTable

/-- A name all of whose entries are in range is settled by the last of them. -/
theorem settling?_of_inRange {set : CaptureSet} {name : String}
    (h : ∀ other ∈ set.entriesOf name, set.InRange other) :
    set.settling? set.names name = (set.entriesOf name).getLast? := by
  cases hrepeat : set.duplicateNames with
  | false => exact settling?_of_single hrepeat name
  | true =>
    rw [settling?_of_repeated hrepeat, List.filter_eq_self.mpr]
    intro other hother
    simpa using h other hother

/-- Where names may repeat, a name without an entry in range is not settled. -/
theorem settling?_absent {set : CaptureSet} {name : String}
    (h : ∀ entry ∈ set.entriesOf name, ¬ set.InRange entry) (hrepeat : set.duplicateNames = true) :
    set.settling? set.names name = none := by
  rw [settling?_of_repeated hrepeat, List.filter_eq_nil_iff.mpr]
  · rfl
  · intro entry hentry
    simpa using h entry hentry

/-- The table of a capture set has its closed form. -/
theorem tabulates_table {set : CaptureSet} (h : set.groups.length < listBound) :
    set.Tabulates set.table := by
  obtain ⟨hproper, hplain⟩ := proper_setNames set set.names [] (proper_groupTable h)
  change set.table.Proper at hproper
  have hgroup : ∀ i g, set.groups[i]? = some g →
      set.table.get (.integer (Int64.ofNat i)) = groupValue g := by
    intro i g hg
    rw [get_table_integer, get_groupTable h hg]
  have habsent : ∀ k, set.table.get k = .nil → ¬ set.table.HasKey k := by
    intro k hnil hkey
    exact (hproper.hasKey_iff k).mp hkey hnil
  refine ⟨fun i text => hgroup i (some text), fun i => hgroup i none, ?_, ?_, ?_, ?_, ?_,
    get_table_integer set, ?_, hproper, hplain⟩
  · intro hrepeat name entry hlast
    have hin : set.InRange entry := by
      simpa using List.of_mem_filter (List.mem_of_getLast? hlast)
    obtain ⟨g, hg⟩ := Option.isSome_iff_exists.mp hin
    have hsettling := (settling?_of_repeated hrepeat name).trans hlast
    exact ⟨g, hg, (get_table_of_settled hsettling).trans (valueAt_of_group hg)⟩
  · intro hrepeat name hout
    exact habsent _ (get_table_of_unsettled (settling?_absent hout hrepeat))
  · intro hsingle name entry g hlast hg
    have hsettling := (settling?_of_single hsingle name).trans hlast
    exact (get_table_of_settled hsettling).trans (valueAt_of_group hg)
  · intro hsingle name entry hlast hout
    have hsettling := (settling?_of_single hsingle name).trans hlast
    exact habsent _ ((get_table_of_settled hsettling).trans (valueAt_of_not_inRange hout))
  · intro name entry hlast hin
    obtain ⟨i, g, hindex, hg, hvalue⟩ := valueAt_of_inRange (hin entry (List.mem_of_getLast? hlast))
    have hsettling := (settling?_of_inRange hin).trans hlast
    have hnumber : Int64.ofInt entry.index = Int64.ofNat i := by
      rw [hindex]
      rfl
    rw [get_table_of_settled hsettling, hvalue, hnumber, hgroup i g hg]
  · -- A key that is neither has nothing in the numbered groups, and no entry writes to it.
    intro k hkey
    by_contra hno
    rw [not_or] at hno
    obtain ⟨hnumber, hname⟩ := hno
    refine habsent k ?_ hkey
    have hsame : set.table.get k = set.groupTable.get k := by
      apply get_setNames_of_ne
      intro entry hentry hk
      exact hname ⟨entry, hentry, hk.symm⟩
    rw [hsame]
    exact get_groupTable_of_ne fun i hi hk => hnumber ⟨i, hi, hk⟩

/-- The captures of a call become a new table with this closed form. No list of groups that fits
into memory is as long as the bound. -/
theorem captures_argument_tabulates {set : CaptureSet} (h : set.groups.length < listBound)
    (vm : Vm) :
    ∃ v vm' t, Machine.run (Payload.captures set).argument vm = (.ok v, vm') ∧ vm.Grows vm' ∧
      vm'.Holds v t ∧ set.Tabulates t := by
  obtain ⟨v, vm', hrun, hgrows, hholds⟩ := newTable_spec set.table vm
  exact ⟨v, vm', set.table, hrun, hgrows, hholds, tabulates_table h⟩

/-- A match of three groups, the last of which took no part, and a name that was given to two of
them and once to none. -/
def sighting : CaptureSet :=
  ⟨[some "Kobold attacks", some "Kobold", none], [⟨"mob", 1⟩, ⟨"mob", 2⟩, ⟨"mob", 9⟩], true⟩

/-- The group that did not match stands under its name as `false`. -/
theorem sighting_argument_names_unmatched_group :
    sighting.groups.length < listBound ∧
    ∃ v vm' t, Machine.run (Payload.captures sighting).argument Vm.fresh = (.ok v, vm') ∧
      vm'.Holds v t ∧ t.get (.text "mob") = .boolean false := by
  have hshort : sighting.groups.length < listBound := by decide
  obtain ⟨v, vm', t, hrun, _, hholds, ht⟩ := captures_argument_tabulates hshort Vm.fresh
  obtain ⟨g, hg, hmob⟩ := ht.repeated rfl "mob" ⟨"mob", 2⟩ (by decide)
  have hnone : g = none := by
    cases hg
    rfl
  rw [hnone] at hmob
  exact ⟨hshort, v, vm', t, hrun, hholds, hmob⟩

end CaptureSet

end EventScripts
