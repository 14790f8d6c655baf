import Mathlib.Data.List.Chain
import EventScripts.Proofs.IndexFilling

/-!
# Which openers run when an engine opens

The builder of an engine is told about openers in a sequence of calls, in which a library or the
name of a preload may occur any number of times. What counts is the last call for each of them.

An opening goes through the libraries in their fixed order. At each it runs the opener that was
given last, else what is built in, else it only writes to the log, and it stops at the first library
that fails.
-/

set_option autoImplicit false

namespace EventScripts

open Script

/-! ## What the builder is told -/

/-- What the builder of an engine is told about openers. -/
inductive SelectionCall where
  | library (library : Library) (opener : Opener)
  | preload (name : String) (opener : Opener)

namespace SelectionCall

/-- The opener of a library that a call gives. -/
def library? : SelectionCall → Option (Library × Opener)
  | .library l opener => some (l, opener)
  | .preload _ _ => none

/-- The preload that a call gives. -/
def preload? : SelectionCall → Option (String × Opener)
  | .library _ _ => none
  | .preload name opener => some (name, opener)

end SelectionCall

/-- The opener that stands last beside a key. -/
def LastGiven {κ : Type} (given : List (κ × Opener)) (key : κ) (opener : Opener) : Prop :=
  ∃ before after, given = before ++ (key, opener) :: after ∧ ∀ other, (key, other) ∉ after

/-- A key for which openers are given has a last one. -/
theorem exists_lastGiven {κ : Type} {given : List (κ × Opener)} {key : κ} {opener : Opener}
    (h : (key, opener) ∈ given) : ∃ last, LastGiven given key last := by
  induction given generalizing opener with
  | nil => cases h
  | cons g rest ih =>
    by_cases hlater : ∃ other, (key, other) ∈ rest
    · obtain ⟨other, hother⟩ := hlater
      obtain ⟨last, before, after, rfl, hlast⟩ := ih hother
      exact ⟨last, g :: before, after, rfl, hlast⟩
    · rcases List.mem_cons.mp h with rfl | hrest
      · exact ⟨opener, [], rest, rfl, fun other hother => hlater ⟨other, hother⟩⟩
      · exact absurd ⟨opener, hrest⟩ hlater

namespace Selection

/-- The selection after a call. -/
def told (s : Selection) : SelectionCall → Selection
  | .library library opener => s.insert library opener
  | .preload name opener => s.preload name opener

/-- What a sequence of calls comes to. -/
def ofCalls (calls : List SelectionCall) : Selection := calls.foldl told .none

/-- The selection keeps all that is given, in the order of the calls. -/
theorem ofCalls_eq (calls : List SelectionCall) :
    ofCalls calls = ⟨calls.filterMap (·.library?), calls.filterMap (·.preload?)⟩ := by
  have hfrom : ∀ s : Selection, calls.foldl told s =
      ⟨s.openers ++ calls.filterMap (·.library?), s.preloads ++ calls.filterMap (·.preload?)⟩ := by
    induction calls with
    | nil =>
      intro s
      simp
    | cons c rest ih =>
      intro s
      rw [List.foldl_cons, ih]
      cases c <;>
        simp [told, insert, preload, SelectionCall.library?, SelectionCall.preload?]
  exact hfrom .none

/-- The opener that counts for a library is the one given last. -/
theorem opener?_eq_some_of_lastGiven {s : Selection} {library : Library} {opener : Opener}
    (h : LastGiven s.openers library opener) : s.opener? library = some opener := by
  obtain ⟨before, after, hgiven, hlast⟩ := h
  have hafter : after.reverse.find? (·.1 == library) = .none := by
    rw [List.find?_eq_none]
    rintro ⟨other, o⟩ hother
    rw [List.mem_reverse] at hother
    rw [beq_iff_eq]
    rintro rfl
    exact hlast o hother
  unfold opener?
  rw [hgiven, List.reverse_append, List.reverse_cons, List.append_assoc, List.find?_append, hafter]
  simp

/-- No opener counts for a library for which none is given. -/
theorem opener?_eq_none {s : Selection} {library : Library}
    (h : ∀ opener, (library, opener) ∉ s.openers) : s.opener? library = .none := by
  unfold opener?
  rw [Option.map_eq_none_iff, List.find?_eq_none]
  rintro ⟨other, o⟩ hother
  rw [List.mem_reverse] at hother
  rw [beq_iff_eq]
  rintro rfl
  exact h o hother

end Selection

/-! ## One library -/

/-- What runs for a library, of which these openers are given. -/
inductive RunsFor (given : List (Library × Opener)) (library : Library) : Machine Unit → Prop
  | supplied {opener : Opener} :
      LastGiven given library opener → RunsFor given library (openSupplied invoke .outside opener)
  | builtIn {fs : List (String × Native)} :
      (∀ opener, (library, opener) ∉ given) → library.builtIn = some fs →
        RunsFor given library (openFunctions invoke .outside library.globalName fs)
  | nothing :
      (∀ opener, (library, opener) ∉ given) → library.builtIn = none →
        RunsFor given library (Machine.emit (.log
          (.debug ("[scripting] library '" ++ library.globalName ++ "' not available"))))

/-- For each library exactly one thing runs. -/
theorem runsFor_iff (s : Selection) (library : Library) (m : Machine Unit) :
    RunsFor s.openers library m ↔ m = s.openLibrary library := by
  constructor
  · intro h
    unfold Selection.openLibrary
    cases h with
    | supplied hlast => rw [Selection.opener?_eq_some_of_lastGiven hlast]
    | builtIn hnone hfs => rw [Selection.opener?_eq_none hnone, hfs]
    | nothing hnone hfs => rw [Selection.opener?_eq_none hnone, hfs]
  · rintro rfl
    unfold Selection.openLibrary
    by_cases hgiven : ∃ opener, (library, opener) ∈ s.openers
    · obtain ⟨opener, hopener⟩ := hgiven
      obtain ⟨last, hlast⟩ := exists_lastGiven hopener
      rw [Selection.opener?_eq_some_of_lastGiven hlast]
      exact .supplied hlast
    · rw [not_exists] at hgiven
      rw [Selection.opener?_eq_none hgiven]
      cases hfs : library.builtIn with
      | none => exact .nothing hgiven hfs
      | some fs => exact .builtIn hgiven hfs

/-! ## All libraries -/

/-- The visit of a library: from which machine to which, and how it ended. -/
structure LibraryVisit where
  library : Library
  before : Vm
  result : Except Value Unit
  after : Vm

/-- Visits that go through libraries in their order, from one machine to another: at each library
runs what runs for it, and the next one begins where it ended, unless it failed. -/
structure VisitsInOrder (given : List (Library × Opener)) (libraries : List Library) (vm : Vm)
    (visits : List LibraryVisit) (result : Except Value Unit) (vm' : Vm) : Prop where
  order : visits.map (·.library) <+: libraries
  runs : ∀ v ∈ visits, ∃ m, RunsFor given v.library m ∧ Machine.run m v.before = (v.result, v.after)
  chain : visits.IsChain fun v w => v.result = .ok () ∧ w.before = v.after
  first : ∀ v ∈ visits.head?, v.before = vm
  last : ∀ v ∈ visits.getLast?, v.result = result ∧ v.after = vm'
  none : visits = [] → result = .ok () ∧ vm' = vm
  all : result = .ok () → visits.map (·.library) = libraries

/-- Opening libraries one after the other visits them in order. -/
theorem Selection.visits_openEach (s : Selection) (libraries : List Library) (vm : Vm) :
    ∃ visits, VisitsInOrder s.openers libraries vm visits (Machine.run (s.openEach libraries) vm).1
      (Machine.run (s.openEach libraries) vm).2 := by
  induction libraries generalizing vm with
  | nil =>
    refine ⟨[], ?_⟩
    constructor <;> simp [openEach]
  | cons library rest ih =>
    have hruns : RunsFor s.openers library (s.openLibrary library) :=
      (runsFor_iff s library _).mpr rfl
    unfold openEach
    rw [Machine.run_bind]
    rcases hrun : Machine.run (s.openLibrary library) vm with ⟨e | ⟨⟩, vm₁⟩
    · -- A library that fails is the last one that is visited.
      refine ⟨[⟨library, vm, .error e, vm₁⟩], ?_, ?_, ?_, ?_, ?_, ?_, ?_⟩
      · simp
      · intro v hv
        rw [List.mem_singleton.mp hv]
        exact ⟨_, hruns, hrun⟩
      all_goals simp
    · obtain ⟨visits, h⟩ := ih vm₁
      refine ⟨⟨library, vm, .ok (), vm₁⟩ :: visits, ?_, ?_, ?_, ?_, ?_, ?_, ?_⟩
      · simpa using h.order
      · intro v hv
        rcases List.mem_cons.mp hv with rfl | hrest
        · exact ⟨_, hruns, hrun⟩
        · exact h.runs v hrest
      · rw [List.isChain_cons]
        exact ⟨fun w hw => ⟨rfl, h.first w hw⟩, h.chain⟩
      · simp
      · intro v hv
        cases visits with
        | nil =>
          cases hv
          obtain ⟨hresult, hvm⟩ := h.none rfl
          exact ⟨hresult.symm, hvm.symm⟩
        | cons w ws => exact h.last v (by simpa using hv)
      · simp
      · intro hok
        simpa using h.all hok

namespace Operation

variable {H : Type} [Host H]

/-- What the host puts into a new machine. -/
def registration (host : Option H) : Machine Unit :=
  match host with
  | some h => Host.register h
  | none => pure ()

/-- The first steps of an opening are the routines of the host and then the libraries. -/
theorem run_firstSteps (host : Option H) (selection : Selection) (vm : Vm) :
    Machine.run (firstSteps host selection) vm =
      Machine.run (registration host >>= fun _ => selection.openAll) vm := by
  unfold firstSteps registration
  cases host with
  | none =>
    dsimp only
    rw [Machine.run_bind_of_ok (Machine.run_pure () vm)]
  | some h => rfl

/-- Once the host has registered its routines, the libraries are visited in order, and there is a
stocked machine if none of them fails. -/
theorem visits_of_registration {s : Session H} {registered : Vm}
    (h : Machine.run (registration s.around.host) (Vm.fresh.among s.around.files) =
      (.ok (), registered)) :
    ∃ visits result vm,
      VisitsInOrder s.engine.selection.openers Library.all registered visits result vm ∧
        ∀ stocked, s.stocked? = some stocked ↔ result = .ok () ∧ stocked = vm := by
  obtain ⟨visits, hvisits⟩ := s.engine.selection.visits_openEach Library.all registered
  refine ⟨visits, _, _, hvisits, fun stocked => ?_⟩
  rw [Session.stocked?_eq_some, run_firstSteps, Machine.run_bind_of_ok h, Prod.ext_iff,
    eq_comm (a := stocked)]
  rfl

/-- There is no stocked machine unless the host registers its routines. -/
theorem exists_registration {s : Session H} {stocked : Vm} (h : s.stocked? = some stocked) :
    ∃ registered, Machine.run (registration s.around.host) (Vm.fresh.among s.around.files) =
      (.ok (), registered) := by
  rw [Session.stocked?_eq_some, run_firstSteps, Machine.run_bind] at h
  rcases hrun : Machine.run (registration s.around.host) (Vm.fresh.among s.around.files) with
    ⟨e | ⟨⟩, registered⟩
  · rw [hrun] at h
    cases h
  · exact ⟨registered, rfl⟩

end Operation

end EventScripts
