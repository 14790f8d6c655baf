import EventScripts.Proofs.FileRequests
import EventScripts.Proofs.MachineRuns

/-!
# Runs among files

All that a run has of the files are the answers to its requests. So if all of these leave the
private files alone, then the run is the same among trees that differ in nothing else: it ends with
the same result, leaves the same machine and has made the same requests.
-/

set_option autoImplicit false

namespace EventScripts.Script

variable {α : Type}

/-! ## How computations go on among files -/

/-- What was asked before makes no difference to how a computation goes on. -/
theorem Course.finish_asked (c : Course α) :
    ∀ (files : FileTree) (asked : List FileRequest),
      c.finish files asked = ((c.finish files []).1,
        { (c.finish files []).2 with asked := asked ++ (c.finish files []).2.asked }) := by
  induction c with
  | ended result store =>
    intro files asked
    simp [Course.finish]
  | asking q rest ih =>
    intro files asked
    unfold Course.finish
    rw [ih _ _ (asked ++ [q]), ih _ _ ([] ++ [q])]
    simp

/-- The files at the end are those that the requests left. -/
theorem Course.files_finish (c : Course α) :
    ∀ files : FileTree,
      (c.finish files []).2.files = files.serveAll (c.finish files []).2.asked := by
  induction c with
  | ended result store => exact fun _ => rfl
  | asking q rest ih =>
    intro files
    unfold Course.finish
    rw [Course.finish_asked _ _ ([] ++ [q])]
    exact ih _ _

/-- Among trees that agree but for the private files, a computation goes on the same if it leaves
these alone. The induction is on how it goes on: the first answer is the same, and so is all that
depends on it. -/
theorem Course.finish_agree {logs : List String} (c : Course α) :
    ∀ {t u : FileTree}, t.AgreeBut logs u →
      (∀ q ∈ (c.finish t []).2.asked, q.LeavesAlone logs) →
      (c.finish u []).1 = (c.finish t []).1 ∧
        (c.finish u []).2.toStore = (c.finish t []).2.toStore ∧
        (c.finish u []).2.asked = (c.finish t []).2.asked ∧
        (c.finish t []).2.files.AgreeBut logs (c.finish u []).2.files := by
  induction c with
  | ended result store => exact fun h _ => ⟨rfl, rfl, rfl, h⟩
  | asking q rest ih =>
    intro t u h hasked
    unfold Course.finish at hasked ⊢
    rw [Course.finish_asked _ _ ([] ++ [q])] at hasked
    rw [Course.finish_asked _ (t.serve q).2 ([] ++ [q]),
      Course.finish_asked _ (u.serve q).2 ([] ++ [q])]
    dsimp only at hasked ⊢
    obtain ⟨hanswer, hspared⟩ := h.serve (hasked q (by simp))
    obtain ⟨hresult, hstore, hrequests, hfiles⟩ :=
      ih (t.serve q).1 hspared.agree fun q' hq' => hasked q' (by simp [hq'])
    rw [hanswer]
    exact ⟨hresult, hstore, congrArg _ hrequests, hfiles⟩

/-! ## Runs on a machine -/

namespace Machine

variable (m : Machine α) (vm : Vm)

/-- The files after a run are those that its requests left. -/
theorem files_run_among (files : FileTree) :
    (Machine.run m (vm.among files)).2.files =
      files.serveAll (Machine.run m (vm.among files)).2.asked :=
  Course.files_finish _ files

/-- Among trees that agree but for the private files a run is the same if it leaves these alone. -/
theorem run_among_agree {logs : List String} {t u : FileTree} (h : t.AgreeBut logs u)
    (hasked : ∀ q ∈ (Machine.run m (vm.among t)).2.asked, q.LeavesAlone logs) :
    (Machine.run m (vm.among u)).1 = (Machine.run m (vm.among t)).1 ∧
      (Machine.run m (vm.among u)).2.toStore = (Machine.run m (vm.among t)).2.toStore ∧
      (Machine.run m (vm.among u)).2.asked = (Machine.run m (vm.among t)).2.asked ∧
      (Machine.run m (vm.among t)).2.files.AgreeBut logs
        (Machine.run m (vm.among u)).2.files :=
  Course.finish_agree _ h hasked

end Machine

end EventScripts.Script
