import EventScripts.Proofs.MachineRuns

/-!
# What openers do

An opener that does nothing leaves the machine as it is, one that fails leaves it too, and one that
makes a table sets the global variable to it. Of any other opener nothing is known: it may do in a
machine whatever a routine of the host can have done there.
-/

set_option autoImplicit false

namespace EventScripts.Script

variable {α : Type} (call : Caller) (site : Site)

/-- What is seen of values does not matter to one who goes on without it. -/
theorem seen_bind (values : List Value) (m : Machine α) : (seen values >>= fun _ => m) = m := by
  rfl

/-- To discard a result is to replace it. -/
theorem discard_eq_map (m : Machine α) : discard m = (fun _ => ()) <$> m := by
  rfl

/-- An opener that does nothing leaves the machine as it is. -/
theorem openSupplied_nothing : openSupplied call site .nothing = pure () := by
  rfl

/-- An opener that fails leaves the machine as it is. -/
theorem openSupplied_failure (message : String) :
    openSupplied call site (.failure message) = throw (.fault (.runtime message)) := by
  rfl

/-- An opener that makes a table sets the global variable to it. -/
theorem openSupplied_table (name : Bytes) (fields : List (Bytes × Provision)) :
    openSupplied call site (.table name fields) = (do
      let t ← Machine.newTable (.ofEntries (← provisions fields))
      setGlobal call site name t) := by
  unfold openSupplied Opener.table
  simp only [Routine.perform, Errand.perform, bind_assoc, pure_bind, seen_bind, discard_eq_map]
  simp [Operand.value, setGlobal]

end EventScripts.Script
