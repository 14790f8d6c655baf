import EventScripts.Proofs.AfterStocking

/-!
# What the lockdown of native modules locks out

`require` looks for its searchers in the package of the machine, whatever the global `package` has
become. The lockdown goes through the global `package` and takes the third and the fourth searcher
off the list that it finds there, without looking at them. So native modules are locked out, and
nothing else is, exactly when the searchers for native modules stand at these two places of the
list; where the host has put another searcher in front, one of them stays.
-/

set_option autoImplicit false

namespace EventScripts

namespace Script

/-- Whether a value is one of the two searchers for native modules. -/
def Value.isNativeSearcher : Value → Bool
  | .function f => f.basic? == some .searchNative || f.basic? == some .searchNativeRoot
  | _ => false

/-- The searchers for native modules are the third and the fourth value of a list, as far as there
are such. -/
def NativesThirdAndFourth (vs : List Value) : Prop :=
  ∀ i v, vs[i]? = some v → (v.isNativeSearcher = true ↔ i = 2 ∨ i = 3)

/-- Native modules are locked out of a machine whose searchers were these: there is no
`package.loadlib`, the path of native modules is empty, and the searchers are those before without
the ones for native modules, in their order. -/
structure Vm.LockedOut (vm : Vm) (before : List Value) : Prop where
  loadlib : (vm.table Vm.package).get (.text "loadlib") = .nil
  cpath : (vm.table Vm.package).get (.text "cpath") = .text ""
  searchers : ∃ list, (vm.table Vm.package).get (.text "searchers") = .table list ∧
    (vm.table list).Lists (before.filter fun v => !v.isNativeSearcher)

/-- A table lists nothing else. -/
theorem Table.Lists.unique {t : Table} {vs ws : List Value} (h : t.Lists vs) (h' : t.Lists ws) :
    vs = ws := by
  have hvs := h.short
  have hws := h'.short
  refine List.ext_getElem? fun i => ?_
  by_cases hi : i + 1 < listBound
  · rw [← h.under i hi, ← h'.under i hi]
  · unfold listBound at hi hvs hws
    rw [List.getElem?_eq_none (by omega), List.getElem?_eq_none (by omega)]

/-- Taking off the third and the fourth value takes off the searchers for native modules, and no
other value, exactly if these are the third and the fourth. -/
theorem take_drop_eq_filter_iff (vs : List Value) :
    vs.take 2 ++ vs.drop 4 = vs.filter (fun v => !v.isNativeSearcher) ↔
      NativesThirdAndFourth vs := by
  let spared : Value → Bool := fun v => !v.isNativeSearcher
  have hparts : vs.filter spared =
      (vs.take 2).filter spared ++ ((vs.drop 2).take 2).filter spared ++
        (vs.drop 4).filter spared := by
    have hsplit : vs = vs.take 2 ++ (vs.drop 2).take 2 ++ vs.drop 4 := by
      rw [List.append_assoc, ← List.drop_drop (i := 2) (j := 2), List.take_append_drop,
        List.take_append_drop]
    conv => lhs; rw [hsplit]
    rw [List.filter_append, List.filter_append]
  have hmiddle : ∀ v, v ∈ (vs.drop 2).take 2 ↔ ∃ i, (i = 2 ∨ i = 3) ∧ vs[i]? = some v := by
    intro v
    rw [List.mem_iff_getElem?]
    constructor
    · rintro ⟨i, hi⟩
      rw [List.getElem?_take] at hi
      split at hi
      · rw [List.getElem?_drop] at hi
        exact ⟨2 + i, by omega, hi⟩
      · cases hi
    · rintro ⟨i, hplace, hi⟩
      refine ⟨i - 2, ?_⟩
      rw [List.getElem?_take, if_pos (by omega), List.getElem?_drop, ← hi]
      congr 1
      omega
  have houter : ∀ i v, vs[i]? = some v → ¬ (i = 2 ∨ i = 3) → v ∈ vs.take 2 ++ vs.drop 4 := by
    intro i v hi hplace
    rw [List.mem_append, List.mem_iff_getElem?, List.mem_iff_getElem?]
    by_cases hfront : i < 2
    · exact .inl ⟨i, by rw [List.getElem?_take, if_pos hfront, hi]⟩
    · refine .inr ⟨i - 4, ?_⟩
      rw [List.getElem?_drop, ← hi]
      congr 1
      omega
  have hinner : ∀ v, v ∈ vs.take 2 ++ vs.drop 4 → ∃ i, ¬ (i = 2 ∨ i = 3) ∧ vs[i]? = some v := by
    intro v hv
    rw [List.mem_append, List.mem_iff_getElem?, List.mem_iff_getElem?] at hv
    rcases hv with ⟨i, hi⟩ | ⟨i, hi⟩
    · rw [List.getElem?_take] at hi
      split at hi
      · exact ⟨i, by omega, hi⟩
      · cases hi
    · rw [List.getElem?_drop] at hi
      exact ⟨4 + i, by omega, hi⟩
  -- If all values around the middle are spared, the middle decides.
  have haround : (∀ v ∈ vs.take 2 ++ vs.drop 4, spared v = true) →
      (vs.take 2 ++ vs.drop 4 = vs.filter spared ↔ ((vs.drop 2).take 2).filter spared = []) := by
    intro hspared
    have hfront : (vs.take 2).filter spared = vs.take 2 :=
      List.filter_eq_self.mpr fun v hv => hspared v (List.mem_append_left _ hv)
    have hback : (vs.drop 4).filter spared = vs.drop 4 :=
      List.filter_eq_self.mpr fun v hv => hspared v (List.mem_append_right _ hv)
    rw [hparts, hfront, hback]
    constructor
    · intro heq
      have hlength := congrArg List.length heq
      simp only [List.length_append] at hlength
      exact List.length_eq_zero_iff.mp (by omega)
    · intro hempty
      rw [hempty, List.append_nil]
  constructor
  · intro heq i v hi
    have hspared : ∀ v ∈ vs.take 2 ++ vs.drop 4, spared v = true := by
      intro w hw
      rw [heq] at hw
      exact (List.mem_filter.mp hw).2
    constructor
    · intro hnative
      by_cases hplace : i = 2 ∨ i = 3
      · exact hplace
      · have hv := hspared v (houter i v hi hplace)
        simp [spared, hnative] at hv
    · intro hplace
      have hempty := (haround hspared).mp heq
      rw [List.filter_eq_nil_iff] at hempty
      have hv := hempty v ((hmiddle v).mpr ⟨i, hplace, hi⟩)
      simpa [spared] using hv
  · intro hplaces
    have hspared : ∀ v ∈ vs.take 2 ++ vs.drop 4, spared v = true := by
      intro v hv
      obtain ⟨i, hplace, hi⟩ := hinner v hv
      have hnot := mt (hplaces i v hi).mp hplace
      simpa [spared] using hnot
    refine (haround hspared).mpr (List.filter_eq_nil_iff.mpr fun v hv => ?_)
    obtain ⟨i, hplace, hi⟩ := (hmiddle v).mp hv
    simp [spared, (hplaces i v hi).mpr hplace]

end Script

namespace Operation

open Script

variable {H : Type} [Host H]

/-- Let the host leave the machine untampered and the global `package` where it was, with a list of
searchers. If an engine then opens that does not allow native modules, without a sandbox script, the
package has no `loadlib` and an empty path of native modules, and the third and the fourth searcher
are gone. So native modules are locked out, and no other searcher is lost, exactly if the searchers
for native modules stood at these two places. -/
theorem locked_out_exactly_when_third_and_fourth (s : Session H) (stocked : Vm) (list : Nat)
    (vs : List Value) (hclosed : s.engine.isOpen = false)
    (hdisallowed : s.engine.settings.allowNative = false)
    (hsandbox : s.engine.settings.sandbox = none) (hstocked : s.stocked? = some stocked)
    (huntampered : stocked.Untampered)
    (hpackage : (stocked.table Vm.globals).get (.text "package") = .table Vm.package)
    (hpreload : (stocked.table Vm.package).get (.text "preload") ≠ .table Vm.package)
    (hsearchers : (stocked.table Vm.package).get (.text "searchers") = .table list)
    (hlists : (stocked.table list).Lists vs) (hopened : s.answer openEngine = .ok ()) :
    ∃ now, (s.after openEngine).engine.live = some now ∧
      (now.vm.table Vm.package).get (.text "loadlib") = .nil ∧
      (now.vm.table Vm.package).get (.text "cpath") = .text "" ∧
      (now.vm.table Vm.package).get (.text "searchers") = .table list ∧
      (now.vm.table list).Lists (vs.take 2 ++ vs.drop 4) ∧
      (now.vm.LockedOut vs ↔ NativesThirdAndFourth vs) := by
  obtain ⟨locked, now, hnow, hlock, hsupplies⟩ :=
    supplies_of_openEngine hclosed hsandbox hstocked huntampered hopened
  rw [hdisallowed] at hlock
  have hplain : (stocked.among stocked.files).Plain := huntampered.plain
  have hlocked : (stocked.among stocked.files).Locked Vm.package locked :=
    locked_of_run (hplain _) hpackage hlock
  -- Preloads are put into another table than the package itself.
  have hpreloads : locked.preloadTable? ≠ some Vm.package := by
    intro hsame
    rw [Vm.preloadTable?_of_lockNativeModules hplain hlock] at hsame
    unfold Vm.preloadTable? at hsame
    have hpackage' : ((stocked.among stocked.files).table Vm.globals).get (.text "package") =
        .table Vm.package := hpackage
    rw [hpackage'] at hsame
    dsimp only at hsame
    split at hsame
    · rename_i q hq
      cases hsame
      exact hpreload hq
    · cases hsame
  have hkept : ∀ name, (now.vm.table Vm.package).get (.text name) =
      (locked.table Vm.package).get (.text name) :=
    fun name => hsupplies.agree.get (.inr ⟨hpreloads, fun h => absurd h.1 (by decide)⟩)
  have hloadlib : (now.vm.table Vm.package).get (.text "loadlib") = .nil :=
    (hkept _).trans hlocked.loadlib
  have hcpath : (now.vm.table Vm.package).get (.text "cpath") = .text "" :=
    (hkept _).trans (hlocked.cpath (huntampered.package _ hpackage).2.1)
  have hlist : (now.vm.table Vm.package).get (.text "searchers") = .table list := by
    refine (hkept _).trans ((hlocked.agree.get ?_).trans hsearchers)
    exact ⟨fun _ => nofun, fun hwritten => absurd hwritten.2 (by decide)⟩
  have hshort : (now.vm.table list).Lists (vs.take 2 ++ vs.drop 4) :=
    (hlocked.searchers list vs hsearchers hlists).of_agree hsupplies.agree fun i => .inl ⟨i, rfl⟩
  refine ⟨now, hnow, hloadlib, hcpath, hlist, hshort, ?_⟩
  rw [← take_drop_eq_filter_iff]
  constructor
  · intro hout
    obtain ⟨list', hlist', hfiltered⟩ := hout.searchers
    cases hlist.symm.trans hlist'
    exact hshort.unique hfiltered
  · intro heq
    refine ⟨hloadlib, hcpath, list, hlist, ?_⟩
    rwa [← heq]

/-- A new engine without a host and without libraries, which does not allow native modules. -/
def locking : Session :=
  .new (.new ⟨none, "", "", false, false⟩ ⟨Library.all.map (·, .nothing), []⟩ .log "") none

/-- It stocks a machine in which nothing is added. -/
theorem stocked?_locking : locking.stocked? = some Vm.fresh := rfl

/-- It opens. -/
theorem answer_openEngine_locking : locking.answer openEngine = .ok () := by
  have hopened : (locking.answer openEngine).isOk = true := by
    decide +kernel
  cases hanswer : locking.answer openEngine with
  | error e =>
    rw [hanswer] at hopened
    cases hopened
  | ok result => rfl

/-- The searchers of a new machine. -/
def stockSearchers : List Value :=
  Stock.searchers.mapIdx fun i f => .function ⟨300 + i, .native f⟩

/-- The list of searchers of a new machine. -/
theorem lists_stockSearchers : (Vm.fresh.table Stock.searchersRef).Lists stockSearchers := by
  refine Table.lists_of_entries rfl (by decide) (by decide) fun v hv => ?_
  obtain ⟨i, f, rfl⟩ : ∃ i f, Value.function ⟨300 + i, .native f⟩ = v := by
    obtain ⟨i, hi, hv⟩ := List.mem_mapIdx.mp hv
    exact ⟨i, _, hv⟩
  nofun

/-- Of the searchers of a new machine those for native modules are locked out, and no other. -/
theorem locked_out_exactly_when_third_and_fourth_locking :
    ∃ now, (locking.after openEngine).engine.live = some now ∧ now.vm.LockedOut stockSearchers := by
  have hplaces : NativesThirdAndFourth stockSearchers := by
    intro i v hi
    match i, hi with
    | 0, hi => cases hi; decide
    | 1, hi => cases hi; decide
    | 2, hi => cases hi; decide
    | 3, hi => cases hi; decide
    | i + 4, hi => cases hi
  obtain ⟨now, hnow, -, -, -, -, hiff⟩ :=
    locked_out_exactly_when_third_and_fourth locking Vm.fresh Stock.searchersRef stockSearchers
      rfl rfl rfl stocked?_locking Vm.untampered_fresh rfl nofun rfl lists_stockSearchers
      answer_openEngine_locking
  exact ⟨now, hnow, hiff.mpr hplaces⟩

/-- What the searchers of a machine are, as far as they are functions of the standard library. -/
def searchersOf (vm : Vm) : List (Option Basic) :=
  match (vm.table Vm.package).get (.text "searchers") with
  | .table list => (List.range (vm.table list).length).map fun i =>
    match (vm.table list).get (.integer (Int64.ofNat (i + 1))) with
    | .function f => f.basic?
    | _ => none
  | _ => []

/-- The searcher at a place of the list. -/
def searcherAt (place : Int64) : Expr :=
  .field (.field (.global (textBytes "package")) (.string (textBytes "searchers")))
    (.number (.integer place))

/-- A new engine for a document that puts a searcher of its own in front of the others. -/
def shifted : Session :=
  .new (.new .default .none .log "")
    (some { Document.new "W" with
      routines := [.setField (.global (textBytes "package")) (.string (textBytes "searchers"))
        (.table ([.item (.function [])] ++ [1, 2, 3, 4].map fun i => .item (searcherAt i)))] })

/-- Behind a searcher of the host, the lockdown takes off the searcher of script files and leaves
one for native modules. -/
theorem native_searcher_stays :
    shifted.engine.settings.allowNative = false ∧
      shifted.stocked?.map searchersOf =
        some [none, some .searchPreload, some .searchScripts, some .searchNative,
          some .searchNativeRoot] ∧
      (shifted.answer openEngine).isOk = true ∧
      (shifted.after openEngine).engine.live.map (fun now => searchersOf now.vm) =
        some [none, some .searchPreload, some .searchNativeRoot] := by
  decide +kernel

end Operation

end EventScripts
