import EventScripts.Proofs.EngineRuns
import EventScripts.Proofs.IndexFilling

/-!
# Engines that share an index of names

Any number of engines, each with hosts of its own type, use one index. An action of one of them
sees the index as the others left it. The index is to be filled from the stocked machine of every
opening that gets so far, and from any machine that is handed to it directly; only the first of
these fills it, whichever engine it comes from and whatever becomes of that opening afterwards.
-/

set_option autoImplicit false

namespace EventScripts

open Script

namespace NameIndex

/-- An index that has been filled is not filled again. -/
theorem populate_of_populated {index : NameIndex} (h : index.isPopulated = true) (vm : Vm) :
    index.populate vm = (index, false) := by
  unfold isPopulated at h
  unfold populate
  cases hnames : index.names with
  | none => simp [hnames] at h
  | some names => rfl

/-- An index that has been filled takes no offer. -/
theorem offer_of_populated {index : NameIndex} (h : index.isPopulated = true)
    (vm? : Option Vm) : index.offer vm? = index := by
  cases vm? with
  | none => rfl
  | some vm => exact congrArg Prod.fst (populate_of_populated h vm)

/-- An empty index takes the names of the machine. -/
theorem populate_empty (vm : Vm) :
    NameIndex.empty.populate vm = (⟨some (.ofMachine vm)⟩, true) := by
  rfl

/-- Nothing is offered by an index that has not been filled. -/
theorem complete_empty (start : String) : NameIndex.empty.complete start = [] := by
  rfl

end NameIndex

/-! ## Two cells -/

/-- An index kept in two cells, one for each kind of names. Each is written if it is empty, whatever
is in the other. -/
structure NameCells where
  functions : Option (List String)
  entries : Option (List String)

namespace NameCells

/-- Cells in which nothing has been written. -/
def empty : NameCells := ⟨none, none⟩

/-- Fills the cells from a machine: the cells, and whether the functions were written. -/
def populate (cells : NameCells) (vm : Vm) : NameCells × Bool :=
  (⟨some (cells.functions.getD (Names.ofMachine vm).functions),
    some (cells.entries.getD (Names.ofMachine vm).entries)⟩, cells.functions.isNone)

/-- Fills the cells from one machine after the other: the cells, and the answers. -/
def populateEach (cells : NameCells) : List Vm → NameCells × List Bool
  | [] => (cells, [])
  | vm :: rest =>
    let (next, filled) := cells.populate vm
    let (last, answers) := next.populateEach rest
    (last, filled :: answers)

end NameCells

/-- The cells that hold what an index holds: both are empty, or both are written. -/
def NameIndex.cells (index : NameIndex) : NameCells :=
  ⟨index.names.map Names.functions, index.names.map Names.entries⟩

/-- Cells that are empty together are written together. -/
theorem NameIndex.populate_cells (index : NameIndex) (vm : Vm) :
    index.cells.populate vm = ((index.populate vm).1.cells, (index.populate vm).2) := by
  obtain ⟨names⟩ := index
  cases names with
  | none => rfl
  | some names => rfl

namespace Session

variable {H : Type} [Host H]

/-- A closed engine would stock the same machine. -/
theorem stocked?_close (s : Session H) : (s.after Operation.close).stocked? = s.stocked? := by
  have hkept : Operation.Keeps (fun t : Session H => (t.around.host, t.around.files))
      Operation.close := by
    unfold Operation.close
    refine Operation.keeps_bind Operation.keeps_get fun t => ?_
    split
    · exact Operation.keeps_bind (Operation.keeps_onEngine fun _ => rfl) fun _ =>
        Operation.keeps_onAround fun _ => rfl
    · exact Operation.keeps_pure _
  have hhost : (s.after Operation.close).around.host = s.around.host := congrArg Prod.fst (hkept s)
  have hfiles : (s.after Operation.close).around.files = s.around.files :=
    congrArg Prod.snd (hkept s)
  have hselection : (s.after Operation.close).engine.selection = s.engine.selection := by
    rw [Operation.engine_close]
  unfold stocked?
  rw [hhost, hselection, hfiles]

end Session

namespace World

variable {H : Type} [Host H]

/-- The machine from which an action has the index filled: that of an opening which gets past the
routines of the host and the libraries. -/
def offered? (w : World H) : Action H → Option Vm
  | .openEngine => if w.isOpen then none else w.session.stocked?
  | .reset => w.session.stocked?
  | _ => none

/-- An action offers the index at most the one machine, and leaves it alone otherwise. -/
theorem index_after (w : World H) (a : Action H) :
    (w.after a).session.index = w.session.index.offer (w.offered? a) := by
  cases a with
  | openEngine =>
    unfold offered?
    cases hopen : w.isOpen with
    | true => exact congrArg Session.index (Operation.openEngine_of_open hopen).1
    | false => exact Operation.index_openEngine hopen
  | close => exact Operation.keeps_indexOf_close w.session
  | reset =>
    have hclosed : (w.session.after Operation.close).engine.isOpen = false := by
      rw [Operation.engine_close]
      rfl
    have hkept : (w.session.after Operation.close).index = w.session.index :=
      Operation.keeps_indexOf_close w.session
    have hopened := Operation.index_openEngine hclosed
    rw [hkept, Session.stocked?_close] at hopened
    exact hopened
  | attach h => rfl
  | detach => rfl
  | execute source label => exact Operation.keeps_indexOf_execute source label w.session
  | probe site name => exact Operation.inner_indexOf.resolveToken name w.session
  | copy origin site => rfl
  | dispatch site r counter =>
    rw [after_of_call w rfl]
    exact Operation.keeps_indexOf_callSite _ _ _ _ w.session
  | dispatchText site r text counter =>
    rw [after_of_call w rfl]
    exact Operation.keeps_indexOf_callSite _ _ _ _ w.session

end World

/-! ## Fleets of engines -/

/-- What is done where several engines share an index. -/
inductive Deed {ι : Type} (H : ι → Type) where
  /-- One of the engines, or one of its sites, acts. -/
  | act (i : ι) (a : Action (H i))
  /-- The index is to be filled from a machine that is no engine's. -/
  | populate (vm : Vm)
  /-- The files around an engine are changed, by another engine or from elsewhere. -/
  | files (i : ι) (tree : FileTree)

/-- Engines that share an index. The indices in their own sessions have no meaning. -/
structure Fleet {ι : Type} (H : ι → Type) where
  worlds : ∀ i, World (H i)
  index : NameIndex

namespace Fleet

variable {ι : Type} {H : ι → Type}

/-- The world of an engine, with the index that is shared. -/
def world (f : Fleet H) (i : ι) : World (H i) :=
  { f.worlds i with session := { (f.worlds i).session with index := f.index } }

variable [DecidableEq ι] [∀ i, Host (H i)]

/-- The fleet after a deed: the engine that acts leaves the index to the others. -/
def after (f : Fleet H) : Deed H → Fleet H
  | .act i a =>
    let w := (f.world i).after a
    ⟨Function.update f.worlds i w, w.session.index⟩
  | .populate vm => { f with index := (f.index.populate vm).1 }
  | .files i tree =>
    let w := f.world i
    let session := w.session.after (Operation.onAround ({ · with files := tree }))
    ⟨Function.update f.worlds i { w with session }, f.index⟩

/-- The machine from which a deed has the index filled. -/
def offered? (f : Fleet H) : Deed H → Option Vm
  | .act i a => (f.world i).offered? a
  | .populate vm => some vm
  | .files _ _ => none

/-- The fleet after a run. -/
def run (f : Fleet H) (deeds : List (Deed H)) : Fleet H := deeds.foldl after f

/-- The machines from which the index was to be filled in a run, in order, each with the answer
whether it was. -/
def offers (f : Fleet H) : List (Deed H) → List (Vm × Bool)
  | [] => []
  | d :: rest =>
    ((f.offered? d).map fun vm => (vm, (f.index.populate vm).2)).toList ++ (f.after d).offers rest

/-- Whose machine a deed has the index filled from, and what that machine has gone through by
then. -/
inductive Stocks (f : Fleet H) : Deed H → Vm → Prop
  | opening {i : ι} {vm : Vm} : (f.world i).isOpen = false →
      Machine.run (Operation.firstSteps (f.world i).session.around.host
        (f.world i).session.engine.selection)
          (Vm.fresh.among (f.world i).session.around.files) = (.ok (), vm) →
      f.Stocks (.act i .openEngine) vm
  | resetting {i : ι} {vm : Vm} :
      Machine.run (Operation.firstSteps (f.world i).session.around.host
        (f.world i).session.engine.selection)
          (Vm.fresh.among (f.world i).session.around.files) = (.ok (), vm) →
      f.Stocks (.act i .reset) vm
  | direct (vm : Vm) : f.Stocks (.populate vm) vm

omit [DecidableEq ι] in
/-- What is offered is a machine that was stocked in this way. -/
theorem stocks_of_offered {f : Fleet H} {d : Deed H} {vm : Vm} (h : f.offered? d = some vm) :
    f.Stocks d vm := by
  cases d with
  | populate other =>
    cases h
    exact .direct vm
  | files i tree => cases h
  | act i a =>
    cases a with
    | openEngine =>
      simp only [offered?, World.offered?] at h
      cases hopen : (f.world i).isOpen with
      | true => simp [hopen] at h
      | false =>
        rw [hopen, if_neg Bool.false_ne_true] at h
        exact .opening hopen (Session.stocked?_eq_some.mp h)
    | reset => exact .resetting (Session.stocked?_eq_some.mp h)
    | _ => cases h

/-- A run takes its first deed first. -/
@[simp] theorem run_cons (f : Fleet H) (d : Deed H) (rest : List (Deed H)) :
    f.run (d :: rest) = (f.after d).run rest := by
  rfl

/-- A run in two parts is one run after the other. -/
theorem run_append (f : Fleet H) (first second : List (Deed H)) :
    f.run (first ++ second) = (f.run first).run second := by
  unfold run
  rw [List.foldl_append]

/-- A deed offers the index at most the one machine, and leaves it alone otherwise. -/
theorem index_after (f : Fleet H) (d : Deed H) :
    (f.after d).index = f.index.offer (f.offered? d) := by
  cases d with
  | populate vm => rfl
  | files i tree => rfl
  | act i a => exact World.index_after (f.world i) a

/-- Kept in two cells the index would be the same after any run, and give the same answers. -/
theorem populateEach_cells (f : Fleet H) (deeds : List (Deed H)) :
    f.index.cells.populateEach ((f.offers deeds).map (·.1)) =
      ((f.run deeds).index.cells, (f.offers deeds).map (·.2)) := by
  induction deeds generalizing f with
  | nil => rfl
  | cons d rest ih =>
    have hrest := ih (f.after d)
    rw [index_after] at hrest
    unfold offers
    cases hoffered : f.offered? d with
    | none =>
      rw [hoffered] at hrest
      exact hrest
    | some vm =>
      rw [hoffered, NameIndex.offer] at hrest
      simp only [Option.map_some, Option.toList_some, List.cons_append, List.nil_append,
        List.map_cons, NameCells.populateEach]
      rw [NameIndex.populate_cells, hrest, run_cons]

/-- An index that has been filled stays as it is, and every later machine is turned down. -/
theorem run_of_populated {f : Fleet H} (h : f.index.isPopulated = true)
    (deeds : List (Deed H)) :
    (f.run deeds).index = f.index ∧ ∀ o ∈ f.offers deeds, o.2 = false := by
  induction deeds generalizing f with
  | nil => exact ⟨rfl, nofun⟩
  | cons d rest ih =>
    have hsame : (f.after d).index = f.index := by
      rw [index_after, NameIndex.offer_of_populated h]
    obtain ⟨hrest, hdeclined⟩ := ih (f := f.after d) (by rw [hsame, h])
    refine ⟨hrest.trans hsame, fun o ho => ?_⟩
    rcases List.mem_append.mp ho with hfirst | hlater
    · obtain ⟨vm, -, rfl⟩ := Option.map_eq_some_iff.mp (Option.mem_toList.mp hfirst)
      exact congrArg Prod.snd (NameIndex.populate_of_populated h vm)
    · exact hdeclined o hlater

/-- As long as no machine is offered, an empty index stays empty. -/
theorem index_run_of_no_offers {f : Fleet H} (hnew : f.index = .empty) {deeds : List (Deed H)}
    (h : f.offers deeds = []) : (f.run deeds).index = .empty := by
  induction deeds generalizing f with
  | nil => exact hnew
  | cons d rest ih =>
    obtain ⟨hfirst, hrest⟩ := List.append_eq_nil_iff.mp h
    refine ih ?_ hrest
    cases hoffered : f.offered? d with
    | none => rw [index_after, hoffered, NameIndex.offer, hnew]
    | some vm => simp [hoffered] at hfirst

/-- The first machine that is offered is that of some deed, before which none was; it fills the
index, and the index stays so. -/
theorem index_run_of_offers {f : Fleet H} (hnew : f.index = .empty) {deeds : List (Deed H)}
    {vm : Vm} {filled : Bool} {rest : List (Vm × Bool)}
    (h : f.offers deeds = (vm, filled) :: rest) :
    (f.run deeds).index = ⟨some (.ofMachine vm)⟩ ∧ filled = true ∧ (∀ o ∈ rest, o.2 = false) ∧
      ∃ before d later, deeds = before ++ d :: later ∧ f.offers before = [] ∧
        (f.run before).Stocks d vm := by
  induction deeds generalizing f with
  | nil => cases h
  | cons d later ih =>
    unfold offers at h
    -- A deed that offers nothing leaves the index to the rest, one that offers a machine fills it.
    cases hoffered : f.offered? d with
    | none =>
      have hempty : (f.after d).index = .empty := by
        rw [index_after, hoffered, NameIndex.offer, hnew]
      rw [hoffered] at h
      obtain ⟨hindex, hfilled, hdeclined, before, e, rest', hdeeds, hnone, hstocks⟩ :=
        ih hempty h
      refine ⟨hindex, hfilled, hdeclined, d :: before, e, rest', ?_, ?_, hstocks⟩
      · rw [hdeeds, List.cons_append]
      · rw [offers, hoffered, hnone]
        rfl
    | some other =>
      rw [hoffered, Option.map_some, hnew, NameIndex.populate_empty] at h
      obtain ⟨hsame, hrest⟩ := List.cons.inj h
      cases hsame
      have hfull : (f.after d).index = ⟨some (.ofMachine vm)⟩ := by
        rw [index_after, hoffered, hnew]
        rfl
      obtain ⟨hkept, hdeclined⟩ :=
        run_of_populated (f := f.after d) (by rw [hfull]; rfl) later
      rw [← hrest]
      exact ⟨hkept.trans hfull, rfl, hdeclined, [], d, later, rfl, rfl,
        stocks_of_offered hoffered⟩

/-- Engines that share a new index write it once. Until a machine is offered nothing is in it and
nothing is completed. The first machine that is offered fills it with its own names, whichever deed
it comes from: a stocked machine has the routines of its host and its libraries then, and nothing
else. Every later machine is turned down, and nothing that happens afterwards changes the index. All
of this is so if functions and entries are in cells of their own, which are written separately. -/
theorem index_is_written_once (f : Fleet H) (hnew : f.index = .empty) (deeds : List (Deed H)) :
    NameCells.empty.populateEach ((f.offers deeds).map (·.1)) =
      ((f.run deeds).index.cells, (f.offers deeds).map (·.2)) ∧
    (f.offers deeds = [] →
      (f.run deeds).index.functions = [] ∧ (f.run deeds).index.entries = [] ∧
        ∀ start, (f.run deeds).index.complete start = []) ∧
    ∀ vm filled rest, f.offers deeds = (vm, filled) :: rest →
      (∃ before d later, deeds = before ++ d :: later ∧ f.offers before = [] ∧
        (f.run before).Stocks d vm) ∧
      filled = true ∧ (∀ o ∈ rest, o.2 = false) ∧
      (f.run deeds).index.functions = (Names.ofMachine vm).functions ∧
      (f.run deeds).index.entries = (Names.ofMachine vm).entries ∧
      ∀ later, (f.run (deeds ++ later)).index = (f.run deeds).index ∧
        ∀ other, ((f.run (deeds ++ later)).index.populate other).2 = false := by
  refine ⟨?_, ?_, ?_⟩
  · have hcells := f.populateEach_cells deeds
    rw [hnew] at hcells
    exact hcells
  · intro hnone
    rw [index_run_of_no_offers hnew hnone]
    exact ⟨rfl, rfl, NameIndex.complete_empty⟩
  · intro vm filled rest hoffers
    obtain ⟨hindex, hfilled, hdeclined, hstocks⟩ := index_run_of_offers hnew hoffers
    have hpopulated : (f.run deeds).index.isPopulated = true := by
      rw [hindex]
      rfl
    refine ⟨hstocks, hfilled, hdeclined, ?_, ?_, fun later => ?_⟩
    · rw [hindex]
      rfl
    · rw [hindex]
      rfl
    · have hkept := (run_of_populated hpopulated later).1
      rw [run_append, hkept]
      exact ⟨rfl, fun other => congrArg Prod.snd (NameIndex.populate_of_populated hpopulated other)⟩

/-- Two engines without hosts and a new index. -/
def pair : Fleet fun _ : Bool => Document := ⟨fun _ => .bare, .empty⟩

/-- One engine opens and takes `print` away, then the other opens and is reset. -/
def pairRun : List (Deed fun _ : Bool => Document) :=
  [.act false .openEngine,
    .act false (.execute [.setGlobal (textBytes "print") .nil] "Script file"),
    .act true .openEngine, .act true .reset]

/-- Of the three machines that are made the first is the one whose names are offered. -/
theorem index_is_written_once_pair :
    pair.index = .empty ∧ ∃ vm rest, pair.offers pairRun = (vm, true) :: rest ∧
      rest.map (·.2) = [false, false] ∧
      (pair.run pairRun).index.functions = (Names.ofMachine vm).functions := by
  have hflags : (pair.offers pairRun).map (·.2) = [true, false, false] := by
    decide +kernel
  have hwritten := (index_is_written_once pair rfl pairRun).2.2
  generalize pair.offers pairRun = offers at hflags hwritten
  cases offers with
  | nil => cases hflags
  | cons offer rest =>
    obtain ⟨vm, filled⟩ := offer
    obtain ⟨hfilled, hrest⟩ := List.cons.inj hflags
    cases hfilled
    obtain ⟨-, -, -, hfunctions, -, -⟩ := hwritten vm true rest rfl
    exact ⟨rfl, vm, rest, rfl, hrest, hfunctions⟩

end Fleet

end EventScripts
