import EventScripts.Proofs.NativeLockdown
import EventScripts.Proofs.TextBytes

/-!
# Which of the names offered for completion can be called

The index of names is filled from the stocked machine, before native modules are locked out. In a
tidy machine every name offered leads to the function from which it was made, so it still leads to a
function after the preloads have been installed and `check` has been defined. The lockdown is what
comes between: the two fields of the package that it strips are offered, if they were functions, but
lead nowhere in the open engine.
-/

set_option autoImplicit false

namespace EventScripts

open Script

/-! ## What an index offers -/

/-- Inserting a name adds it and nothing else. -/
theorem mem_insertName (x n : String) (ns : List String) :
    x ∈ insertName n ns ↔ x = n ∨ x ∈ ns := by
  induction ns with
  | nil => simp [insertName]
  | cons m ms ih =>
    unfold insertName
    by_cases hsame : (m == n) = true
    · have hmn : m = n := beq_iff_eq.mp hsame
      rw [if_pos hsame, hmn]
      simp
    · rw [if_neg hsame]
      by_cases hbefore : textLe n m = true
      · rw [if_pos hbefore]
        simp
      · rw [if_neg hbefore, List.mem_cons, List.mem_cons, ih]
        constructor
        · rintro (hm | hn | hms)
          · exact .inr (.inl hm)
          · exact .inl hn
          · exact .inr (.inr hms)
        · rintro (hn | hm | hms)
          · exact .inr (.inl hn)
          · exact .inl hm
          · exact .inr (.inr hms)

namespace Names

/-- Inserting names adds them and nothing else. -/
theorem mem_foldl_insertName (x : String) (names before : List String) :
    x ∈ names.foldl (fun names name => insertName name names) before ↔ x ∈ names ∨ x ∈ before := by
  induction names generalizing before with
  | nil => simp
  | cons n rest ih =>
    rw [List.foldl_cons, ih, mem_insertName, List.mem_cons]
    constructor
    · rintro (hrest | hn | hbefore)
      · exact .inl (.inr hrest)
      · exact .inl (.inl hn)
      · exact .inr hbefore
    · rintro ((hn | hrest) | hbefore)
      · exact .inr (.inl hn)
      · exact .inl hrest
      · exact .inr (.inr hbefore)

/-- A name is gathered if one of the tables gives it. -/
theorem mem_gather (vm : Vm) (nameOf : String → Key × Value → Option String)
    (tables : List String) (name : String) :
    name ∈ gather vm nameOf tables ↔
      ∃ table ∈ tables, ∃ e ∈ tableEntries vm table, nameOf table e = some name := by
  unfold gather
  rw [mem_foldl_insertName]
  simp

/-- A function is offered if one of the tables gives its name, and it is not the hidden one. -/
theorem mem_functions (vm : Vm) (name : String) :
    name ∈ (ofMachine vm).functions ↔
      (∃ table ∈ functionTables, ∃ e ∈ tableEntries vm table,
        functionName? table e = some name) ∧ name ≠ hiddenFunction := by
  show name ∈ (gather vm functionName? functionTables).filter (· != hiddenFunction) ↔ _
  rw [List.mem_filter, mem_gather, bne_iff_ne]

end Names

/-! ## Names and their parts -/

namespace Script

/-- A text without a dot is one part. -/
theorem segments_of_no_dot {cs : List Char} (h : '.' ∉ cs) : segments cs = [cs] := by
  induction cs with
  | nil => rfl
  | cons c cs ih =>
    rw [List.mem_cons, not_or] at h
    unfold segments
    rw [if_neg (by simpa using Ne.symm h.1), ih h.2]

/-- The first part of a name ends at its first dot. -/
theorem segments_append_dot {cs : List Char} (h : '.' ∉ cs) (rest : List Char) :
    segments (cs ++ '.' :: rest) = cs :: segments rest := by
  rw [segments_append, segments_of_no_dot h]
  rfl

/-- A key that is a name: a text in UTF-8, neither empty nor with a dot. -/
def Key.IsName : Key → Prop
  | .string s => s ≠ [] ∧ textBytes s.lossy = s ∧ 0x2E ∉ s
  | _ => False

instance : DecidablePred Key.IsName
  | .string s => inferInstanceAs (Decidable (s ≠ [] ∧ textBytes s.lossy = s ∧ 0x2E ∉ s))
  | .boolean _ | .integer _ | .double _ | .table _ | .function _ | .thread _ | .object _
  | .fault _ => inferInstanceAs (Decidable False)

/-- A key that is a name is the key of a text that is neither empty nor has a dot. -/
theorem Key.IsName.exists_text {k : Key} (h : k.IsName) :
    ∃ name : String, k = .text name ∧ Names.keyName? k = some name ∧ name.toList ≠ [] ∧
      '.' ∉ name.toList := by
  cases k with
  | string s =>
    obtain ⟨hne, hutf, hdot⟩ := h
    refine ⟨s.lossy, congrArg Key.string hutf.symm, rfl, ?_, ?_⟩
    · intro hempty
      rw [← hutf, textBytes, hempty] at hne
      exact hne rfl
    · intro hmem
      rw [← hutf] at hdot
      exact hdot (List.mem_flatMap.mpr ⟨'.', hmem, by decide⟩)
  | _ => exact h.elim

/-! ## Tidy machines -/

namespace Vm

/-- A machine whose functions for completion stand under names, each under one of its own; that is
untampered, has the globals under `_G`, and keeps no preloads in the package itself. -/
structure Tidy (vm : Vm) : Prop where
  untampered : vm.Untampered
  self : (vm.table globals).get (.text "_G") = .table globals
  named : ∀ table ∈ Names.functionTables, ∀ e ∈ Names.tableEntries vm table,
    Names.isFunction e.2 = true → e.1.IsName
  distinct : ∀ table ∈ Names.functionTables, ((Names.tableEntries vm table).map (·.1)).Nodup
  preload : ∀ p, (vm.table globals).get (.text "package") = .table p → vm.preloadTable? ≠ some p

/-- A name that the lockdown strips: `loadlib` or `cpath` of a table that is the package. -/
def Stripped (vm : Vm) (name : String) : Prop :=
  ∃ p, ∃ table ∈ Names.functionTables, ∃ field ∈ ["loadlib", "cpath"],
    (vm.table globals).get (.text "package") = .table p ∧
    (vm.table globals).get (.text table) = .table p ∧ name = table ++ "." ++ field

/-- A function of a table that is a global variable. -/
structure Offers (vm : Vm) (table : String) (ref : Nat) (field : String) : Prop where
  listed : table ∈ Names.functionTables
  global : (vm.table globals).get (.text table) = .table ref
  named : field.toList ≠ [] ∧ '.' ∉ field.toList
  function : Names.isFunction ((vm.table ref).get (.text field)) = true

/-- The name under which a function of a table is offered. -/
def offeredName (table field : String) : String :=
  if table = "_G" then field else table ++ "." ++ field

/-- A function that stands under a text is offered under it. -/
theorem functionName?_text (table : String) {part : String}
    (hshown : part.toList.head? ≠ some '_') {v : Value} (hfunction : Names.isFunction v = true) :
    Names.functionName? table (.text part, v) = some (offeredName table part) := by
  have hkey : Names.keyName? (.text part) = some part := congrArg some (lossy_textBytes part)
  have hnotHidden : ¬ (part.toList.head? == some '_') = true := by simpa using hshown
  unfold Names.functionName? offeredName
  dsimp only
  rw [hfunction, hkey, Option.bind_some, if_neg (by decide), if_neg hnotHidden]
  by_cases hglobals : table = "_G"
  · rw [if_pos hglobals, if_pos (beq_iff_eq.mpr hglobals)]
  · rw [if_neg hglobals, if_neg fun hsame => hglobals (beq_iff_eq.mp hsame)]

/-- A function of one of the tables is offered, unless its name starts with `_` or is the hidden
one. -/
theorem Offers.mem_functions {vm : Vm} {table : String} {ref : Nat} {field : String}
    (h : vm.Offers table ref field) (hshown : field.toList.head? ≠ some '_')
    (hnotHidden : offeredName table field ≠ Names.hiddenFunction) :
    offeredName table field ∈ (Names.ofMachine vm).functions := by
  have hentries : Names.tableEntries vm table = (vm.table ref).entries := by
    unfold Names.tableEntries
    rw [h.global]
  have hentry : (.text field, (vm.table ref).get (.text field)) ∈ (vm.table ref).entries := by
    refine Table.mem_entries_of_get fun hnil => ?_
    have hfunction := h.function
    rw [hnil] at hfunction
    cases hfunction
  refine (Names.mem_functions vm _).mpr
    ⟨⟨table, h.listed, _, hentries ▸ hentry, ?_⟩, hnotHidden⟩
  exact functionName?_text table hshown h.function

/-- Every name that a machine gives is offered for a function of one of the tables, if these stand
under names, each under one of its own. The name of the field does not start with `_`. -/
theorem offers_of_mem_functions {vm : Vm}
    (hnamed : ∀ table ∈ Names.functionTables, ∀ e ∈ Names.tableEntries vm table,
      Names.isFunction e.2 = true → e.1.IsName)
    (hdistinct : ∀ table ∈ Names.functionTables,
      ((Names.tableEntries vm table).map (·.1)).Nodup)
    {name : String} (hname : name ∈ (Names.ofMachine vm).functions) :
    ∃ table ref field, vm.Offers table ref field ∧ field.toList.head? ≠ some '_' ∧
      name = offeredName table field := by
  obtain ⟨⟨table, htable, e, he, hoffered⟩, -⟩ := (Names.mem_functions vm name).mp hname
  unfold Names.functionName? at hoffered
  split at hoffered
  · cases hoffered
  rename_i hfunction
  have hisFunction : Names.isFunction e.2 = true := by simpa using hfunction
  obtain ⟨field, hkey, hkeyName, hne, hdot⟩ := (hnamed table htable e he hisFunction).exists_text
  rw [hkeyName, Option.bind_some] at hoffered
  have hglobal : ∃ ref, (vm.table globals).get (.text table) = .table ref ∧
      Names.tableEntries vm table = (vm.table ref).entries := by
    unfold Names.tableEntries at he ⊢
    split at he
    · rename_i ref href
      exact ⟨ref, href, rfl⟩
    · cases he
  obtain ⟨ref, href, hentries⟩ := hglobal
  have hget : (vm.table ref).get e.1 = e.2 := by
    refine Table.get_of_mem ?_ (hentries ▸ he)
    rw [← hentries]
    exact hdistinct table htable
  have hoffers : vm.Offers table ref field := by
    refine ⟨htable, href, ⟨hne, hdot⟩, ?_⟩
    rw [← hkey, hget]
    exact hisFunction
  split at hoffered
  · cases hoffered
  rename_i hshown
  refine ⟨table, ref, field, hoffers, by simpa using hshown, ?_⟩
  unfold offeredName
  by_cases hglobals : table = "_G"
  · rw [if_pos hglobals]
    rw [if_pos (by simpa using hglobals)] at hoffered
    exact (Option.some.inj hoffered).symm
  · rw [if_neg hglobals]
    rw [if_neg (by simpa using hglobals)] at hoffered
    exact (Option.some.inj hoffered).symm

/-- Every name that a tidy machine offers comes from a function in one of the tables. -/
theorem Tidy.offers {vm : Vm} (h : vm.Tidy) {name : String}
    (hname : name ∈ (Names.ofMachine vm).functions) :
    ∃ table ref field, vm.Offers table ref field ∧ name = offeredName table field := by
  obtain ⟨table, ref, field, hoffers, -, heq⟩ := offers_of_mem_functions h.named h.distinct hname
  exact ⟨table, ref, field, hoffers, heq⟩

/-! ## Following offered names -/

/-- The tables whose functions are offered have names without dots, and none of them is `check`. -/
theorem functionTables_plain : ∀ table ∈ Names.functionTables,
    table.toList ≠ [] ∧ '.' ∉ table.toList ∧ Key.text table ≠ .text "check" := by
  decide

/-- The entry under a text is what the table has under its key. -/
theorem entry_text (vm : Vm) (ref : Nat) (part : List Char) :
    vm.entry ref (.text (String.ofList part)) =
      (vm.table ref).get (.text (String.ofList part)) := by
  rfl

/-- From a table without a metatable one more part of a name leads to what stands under it. -/
theorem path_cons_of_plain {vm : Vm} {ref : Nat} (h : (vm.table ref).metatable = none)
    {part : String} (hpart : part.toList ≠ []) (parts : List (List Char)) :
    vm.path (.table ref) (part.toList :: parts) =
      vm.path ((vm.table ref).get (.text part)) parts := by
  have hempty : ¬ part.toList.isEmpty = true := by
    rwa [List.isEmpty_iff]
  rw [path, if_neg hempty, show Machine.chainLimit = 1999 + 1 from rfl, field_of_plain h,
    entry_text, String.ofList_toList]

/-- The parts of an offered name are the table and the field, the table left out for globals. -/
theorem segments_offeredName {table field : String} (htable : '.' ∉ table.toList)
    (hfield : '.' ∉ field.toList) :
    segments (offeredName table field).toList =
      if table = "_G" then [field.toList] else [table.toList, field.toList] := by
  unfold offeredName
  by_cases hglobals : table = "_G"
  · rw [if_pos hglobals, if_pos hglobals, segments_of_no_dot hfield]
  · have hchars : (table ++ "." ++ field).toList = table.toList ++ '.' :: field.toList := by
      simp
    rw [if_neg hglobals, if_neg hglobals, hchars, segments_append_dot htable,
      segments_of_no_dot hfield]

/-- An offered name leads to what stands in the table under the field, if the table is still the
same global variable, and neither it nor the table of the globals has a metatable. -/
theorem peek_offeredName {vm : Vm} {table field : String} {ref : Nat}
    (hglobals : (vm.table globals).metatable = none) (href : (vm.table ref).metatable = none)
    (hlisted : table ∈ Names.functionTables) (hnamed : field.toList ≠ [] ∧ '.' ∉ field.toList)
    (hglobal : (vm.table globals).get (.text table) = .table ref)
    (hself : table = "_G" → ref = globals) :
    vm.peek (offeredName table field) = some (some ((vm.table ref).get (.text field))) := by
  obtain ⟨hne, hdot, -⟩ := functionTables_plain table hlisted
  unfold peek
  rw [segments_offeredName hdot hnamed.2]
  by_cases hunprefixed : table = "_G"
  · rw [if_pos hunprefixed, path_cons_of_plain hglobals hnamed.1, path_nil, hself hunprefixed]
  · rw [if_neg hunprefixed, path_cons_of_plain hglobals hne, hglobal,
      path_cons_of_plain href hnamed.1, path_nil]

/-! ## From the stocked machine to the open one -/

/-- The globals of a tidy machine are not its package. -/
theorem Tidy.globals_ne {vm : Vm} (h : vm.Tidy) {p : Nat}
    (hp : (vm.table globals).get (.text "package") = .table p) : p ≠ globals :=
  (h.untampered.package p hp).1

/-- A name that is offered for a field is stripped exactly if the field is. -/
theorem Tidy.stripped_iff {vm : Vm} (h : vm.Tidy) {table field : String} {ref : Nat}
    (ho : vm.Offers table ref field) :
    vm.Stripped (offeredName table field) ↔
      (vm.table globals).get (.text "package") = .table ref ∧
        (field = "loadlib" ∨ field = "cpath") := by
  -- The package is not what `_G` stands for.
  have hnotSelf : ∀ {t : String} {p : Nat},
      (vm.table globals).get (.text "package") = .table p →
      (vm.table globals).get (.text t) = .table p → t ≠ "_G" := by
    rintro t p hp ht rfl
    rw [h.self] at ht
    cases ht
    exact h.globals_ne hp rfl
  constructor
  · rintro ⟨p, table', htable', field', hfield', hpackage, hglobal', hname⟩
    have hlabels : ∀ f ∈ ["loadlib", "cpath"], '.' ∉ f.toList := by decide
    have hprefixed : table' ++ "." ++ field' = offeredName table' field' :=
      (if_neg (hnotSelf hpackage hglobal')).symm
    have hsegments : segments (offeredName table field).toList =
        segments (offeredName table' field').toList := by
      rw [hname, hprefixed]
    rw [segments_offeredName (functionTables_plain table ho.listed).2.1 ho.named.2,
      segments_offeredName (functionTables_plain table' htable').2.1
        (hlabels field' hfield'),
      if_neg (hnotSelf hpackage hglobal')] at hsegments
    by_cases hglobals : table = "_G"
    · rw [if_pos hglobals] at hsegments
      exact absurd (congrArg List.length hsegments) (by simp)
    · rw [if_neg hglobals] at hsegments
      obtain ⟨htables, hfields⟩ := List.cons.inj hsegments
      obtain rfl : table = table' := String.toList_inj.mp htables
      obtain rfl : field = field' := String.toList_inj.mp (List.cons.inj hfields).1
      cases hglobal'.symm.trans ho.global
      exact ⟨hpackage, by simpa using hfield'⟩
  · rintro ⟨hpackage, hfield⟩
    refine ⟨ref, table, ho.listed, field, ?_, hpackage, ho.global, ?_⟩
    · simpa using hfield
    · exact if_neg (hnotSelf hpackage ho.global)

/-- What becomes of an offered name when an engine opens from a tidy machine: it leads to a function
unless it was stripped, in a machine that got there by the lockdown and by adding functions. -/
theorem Tidy.lookup_offered {allowNative : Bool} {vm locked now : Vm} (h : vm.Tidy)
    {files : FileTree}
    (hlock : Machine.run (lockNativeModules allowNative) (vm.among files) = (.ok (), locked))
    (hsupplies : locked.Supplies (besideSupplies locked.preloadTable?) now)
    {table field : String} {ref : Nat} (ho : vm.Offers table ref field) :
    ∃ v, now.settled.peek (offeredName table field) = some (some v) ∧
      (Names.isFunction v = true ↔
        ¬ (allowNative = false ∧ vm.Stripped (offeredName table field))) := by
  have hplain : (vm.among files).Plain := h.untampered.plain
  have hkept := agree_of_lockNativeModules hplain hlock
  have hpreloads : locked.preloadTable? = (vm.among files).preloadTable? :=
    preloadTable?_of_lockNativeModules hplain hlock
  have hnow : now.settled.Plain := hsupplies.agree.plain (hkept.plain hplain)
  -- The tables are the same global variables as before.
  have hglobal : (now.table globals).get (.text table) = .table ref := by
    have hnotGlobals : locked.preloadTable? ≠ some globals := by
      rw [hpreloads]
      intro hsame
      unfold preloadTable? at hsame
      split at hsame
      · rename_i p hp
        split at hsame
        · rename_i q hq
          cases hsame
          exact (h.untampered.package p hp).2.2 hq
        · cases hsame
      · cases hsame
    have hsupplied : (now.table globals).get (.text table) =
        (locked.table globals).get (.text table) :=
      hsupplies.agree.get (.inr ⟨hnotGlobals, fun hcheck =>
        (functionTables_plain table ho.listed).2.2 hcheck.2⟩)
    have hlocked : (locked.table globals).get (.text table) =
        (vm.table globals).get (.text table) :=
      hkept.get ⟨fun _ => nofun, fun hstrips => h.globals_ne hstrips.2.1 rfl⟩
    exact (hsupplied.trans hlocked).trans ho.global
  have hself : table = "_G" → ref = globals := by
    rintro rfl
    have hsame := h.self.symm.trans ho.global
    cases hsame
    rfl
  refine ⟨_, peek_offeredName (hnow _) (hnow _) ho.listed ho.named hglobal hself, ?_⟩
  rw [h.stripped_iff ho]
  by_cases hstrips : vm.Strips allowNative ref (.text field)
  · -- The field is gone or a text, and no preload is put in its place.
    obtain ⟨rfl, hpackage, hfield⟩ := hstrips
    have hlocked : (vm.among files).Locked ref locked := locked_of_run (hplain _) hpackage hlock
    have hsame : (now.table ref).get (.text field) = (locked.table ref).get (.text field) := by
      refine hsupplies.agree.get (.inr ⟨?_, fun hcheck => h.globals_ne hpackage hcheck.1⟩)
      rw [hpreloads]
      exact h.preload ref hpackage
    have hnotFunction :
        ¬ Names.isFunction ((now.settled.table ref).get (.text field)) = true := by
      show ¬ Names.isFunction ((now.table ref).get (.text field)) = true
      rw [hsame]
      rcases hfield with hloadlib | hcpath
      · rw [hloadlib, hlocked.loadlib]
        nofun
      · rw [hcpath, hlocked.cpath (h.untampered.package ref hpackage).2.1]
        nofun
    have hname : field = "loadlib" ∨ field = "cpath" := by
      rcases hfield with hloadlib | hcpath
      · exact .inl (textBytes_inj (Key.string.inj hloadlib))
      · exact .inr (textBytes_inj (Key.string.inj hcpath))
    exact iff_of_false hnotFunction fun hkeeps => hkeeps ⟨rfl, hpackage, hname⟩
  · -- The field is kept by the lockdown, and functions stay functions.
    have hsame : (locked.table ref).get (.text field) = (vm.table ref).get (.text field) :=
      hkept.get ⟨fun _ => nofun, hstrips⟩
    have hfunction : Names.isFunction ((now.settled.table ref).get (.text field)) = true := by
      refine hsupplies.functions ref _ ?_
      rw [hsame]
      exact ho.function
    refine iff_of_true hfunction ?_
    rintro ⟨hdisallowed, hpackage, hname⟩
    refine hstrips ⟨hdisallowed, hpackage, ?_⟩
    rcases hname with rfl | rfl
    · exact .inl rfl
    · exact .inr rfl

end Vm

end Script

namespace Operation

open Script

variable {H : Type} [Host H]

/-- Probing a name finds a function if the name can be read off the machine and leads to one. -/
theorem state_resolveToken {s : Session H} {live : Live} {name : String} {v : Value}
    (hlive : s.engine.live = some live) (hpeek : live.vm.settled.peek name = some (some v)) :
    (s.answer (resolveToken name)).state = .resolved ↔ Names.isFunction v = true := by
  have hanswer := answer_findFunction (s := s)
    (run_lookupFunction_of_peek ((live.vm.peek_among _ _).trans hpeek))
  have hstate : (s.answer (resolveToken name)).state =
      if v.function?.isSome then .resolved else .broken := by
    unfold resolveToken
    rw [Session.answer_bind, Session.answer_get, Session.after_get]
    dsimp only
    rw [hlive]
    dsimp only
    rw [Session.answer_bind, hanswer]
    rfl
  rw [hstate]
  cases v <;> simp [Value.function?, Names.isFunction]

/-- Let an engine without a sandbox script open with an empty index, from a tidy machine. Then the
index has the names of that machine, and a name that it offers for a function leads to one in the
engine that has just opened, unless the lockdown stripped it: `loadlib` and `cpath` of the package
are offered where native modules are not allowed, but lead nowhere. -/
theorem offered_names_resolve_unless_stripped (s : Session H) (stocked : Vm)
    (hclosed : s.engine.isOpen = false) (hindex : s.index.isPopulated = false)
    (hsandbox : s.engine.settings.sandbox = none) (hstocked : s.stocked? = some stocked)
    (htidy : stocked.Tidy) (hopened : s.answer openEngine = .ok ()) :
    (s.after openEngine).index.names = some (Names.ofMachine stocked) ∧
    ∀ name ∈ (s.after openEngine).index.functions,
      ((s.after openEngine).answer (resolveToken name)).state = .resolved ↔
        ¬ (s.engine.settings.allowNative = false ∧ stocked.Stripped name) := by
  have hfilled := index_after_openEngine_of_empty hclosed hindex
  rw [hstocked] at hfilled
  obtain ⟨locked, now, hnow, hlock, hsupplies⟩ :=
    supplies_of_openEngine hclosed hsandbox hstocked htidy.untampered hopened
  refine ⟨congrArg NameIndex.names hfilled, fun name hname => ?_⟩
  rw [hfilled] at hname
  obtain ⟨table, ref, field, hoffers, rfl⟩ := htidy.offers hname
  obtain ⟨v, hpeek, hfunction⟩ := htidy.lookup_offered hlock hsupplies hoffers
  rw [state_resolveToken hnow hpeek]
  exact hfunction

/-- A new machine is tidy. -/
theorem tidy_fresh : Vm.fresh.Tidy where
  untampered := Vm.untampered_fresh
  self := rfl
  named := by decide +kernel
  distinct := by decide +kernel
  preload p hp := by
    cases hp
    decide

/-- Of the names that a new machine gives, `package.searchpath` leads to a function in the open
engine, and `package.loadlib` to none. -/
theorem offered_names_resolve_unless_stripped_locking :
    ((locking.after openEngine).answer (resolveToken "package.searchpath")).state = .resolved ∧
      ((locking.after openEngine).answer (resolveToken "package.loadlib")).state ≠ .resolved := by
  obtain ⟨hnames, hresolves⟩ := offered_names_resolve_unless_stripped locking Vm.fresh rfl rfl
    rfl stocked?_locking tidy_fresh answer_openEngine_locking
  have hpackage : (Vm.fresh.table Vm.globals).get (.text "package") = .table Vm.package := rfl
  have hsearchpath : Vm.fresh.Offers "package" Vm.package "searchpath" :=
    ⟨by decide, hpackage, by decide, rfl⟩
  have hloadlib : Vm.fresh.Offers "package" Vm.package "loadlib" :=
    ⟨by decide, hpackage, by decide, rfl⟩
  have hfunctions : (locking.after openEngine).index.functions =
      (Names.ofMachine Vm.fresh).functions := by
    unfold NameIndex.functions
    rw [hnames, Option.map_some, Option.getD_some]
  rw [hfunctions] at hresolves
  have hfirst := hresolves _ (hsearchpath.mem_functions (by decide) (by decide))
  have hsecond := hresolves _ (hloadlib.mem_functions (by decide) (by decide))
  rw [tidy_fresh.stripped_iff hsearchpath] at hfirst
  rw [tidy_fresh.stripped_iff hloadlib] at hsecond
  refine ⟨hfirst.mpr fun hlost => ?_, fun hresolved => ?_⟩
  · exact absurd hlost.2.2 (by decide)
  · exact hsecond.mp hresolved ⟨rfl, hpackage, .inl rfl⟩

/-- A new engine for a document. -/
def documented : Session :=
  .new (.new .default .none .log "") (some (Document.new "W"))

/-- The name of a function that is gone is offered. -/
theorem loadlib_is_offered :
    documented.index.isPopulated = false ∧ documented.engine.settings.sandbox.isNone = true ∧
      (documented.answer openEngine).isOk = true ∧
      "package.loadlib" ∈ (documented.after openEngine).index.functions ∧
      ((documented.after openEngine).answer (resolveToken "package.loadlib")).state = .broken := by
  have hgiven : (documented.stocked?.any fun vm => decide (∃ e ∈ Names.tableEntries vm "package",
      e.1 = .text "loadlib" ∧ Names.isFunction e.2 = true)) = true := by
    decide +kernel
  refine ⟨rfl, rfl, by decide +kernel, ?_, by decide +kernel⟩
  rw [index_after_openEngine_of_empty rfl rfl]
  cases hstocked : documented.stocked? with
  | none =>
    rw [hstocked] at hgiven
    cases hgiven
  | some vm =>
    rw [hstocked, Option.any_some] at hgiven
    obtain ⟨⟨key, v⟩, hentry, rfl, hfunction⟩ := of_decide_eq_true hgiven
    have hname := Vm.functionName?_text "package" (by decide : "loadlib".toList.head? ≠ some '_')
      hfunction
    exact (Names.mem_functions vm _).mpr ⟨⟨"package", by decide, _, hentry, hname⟩, by decide⟩

end Operation

end EventScripts
