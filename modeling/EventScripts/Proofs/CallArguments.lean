import Mathlib.Data.List.Forall2
import EventScripts.Dispatch.Arguments
import EventScripts.Proofs.MachineRuns

/-!
# What the arguments of a call stand for

The arguments of a request are its numbers, its texts and one table for each payload, all in their
order. Making them never fails and only adds tables to the machine: what was there stays, and
nothing outside is touched. A value stands for a payload in a machine that holds its table there.
-/

set_option autoImplicit false

namespace EventScripts

open Script

namespace Script.Vm

/-- A machine that has got more tables, and is the same otherwise. -/
structure Grows (vm vm' : Vm) : Prop where
  tables : ∃ more, vm'.tables = vm.tables ++ more
  objects : vm'.objects = vm.objects
  nextId : vm'.nextId = vm.nextId
  journal : vm'.journal = vm.journal

/-- A machine grows by nothing. -/
theorem Grows.refl (vm : Vm) : vm.Grows vm :=
  ⟨⟨#[], Array.append_empty.symm⟩, rfl, rfl, rfl⟩

/-- Two growths are one. -/
theorem Grows.trans {a b c : Vm} (hab : a.Grows b) (hbc : b.Grows c) : a.Grows c := by
  obtain ⟨more, hmore⟩ := hab.tables
  obtain ⟨rest, hrest⟩ := hbc.tables
  refine ⟨⟨more ++ rest, ?_⟩, hbc.objects.trans hab.objects, hbc.nextId.trans hab.nextId,
    hbc.journal.trans hab.journal⟩
  rw [hrest, hmore, Array.append_assoc]

/-- The value is a table of the machine with these contents. -/
def Holds (vm : Vm) (v : Value) (t : Table) : Prop :=
  ∃ ref, v = .table ref ∧ vm.tables[ref]? = some t

/-- A machine that grows holds what it held. -/
theorem Holds.mono {vm vm' : Vm} {v : Value} {t : Table} (h : vm.Holds v t)
    (hgrows : vm.Grows vm') : vm'.Holds v t := by
  obtain ⟨ref, hv, htable⟩ := h
  obtain ⟨more, hmore⟩ := hgrows.tables
  refine ⟨ref, hv, ?_⟩
  have hbound : ref < vm.tables.size := (Array.getElem?_eq_some_iff.mp htable).1
  rw [hmore, Array.getElem?_append_left hbound, htable]

end Script.Vm

/-- A new table is added to the machine, and held there. -/
theorem newTable_spec (t : Table) (vm : Vm) :
    ∃ v vm', Machine.run (Machine.newTable t) vm = (.ok v, vm') ∧ vm.Grows vm' ∧
      vm'.Holds v t := by
  refine ⟨.table vm.tables.size, { vm with tables := vm.tables.push t }, rfl, ?_, ?_⟩
  · exact ⟨⟨#[t], Array.push_eq_append⟩, rfl, rfl, rfl⟩
  · exact ⟨vm.tables.size, rfl, Array.getElem?_push_size⟩

/-- The runs of a line become one table each. -/
theorem runTables_spec (runs : List StyleRun) (vm : Vm) :
    ∃ vs vm', Machine.run (StyledLine.runTables runs) vm = (.ok vs, vm') ∧ vm.Grows vm' ∧
      List.Forall₂ (fun run v => vm'.Holds v run.table) runs vs := by
  induction runs generalizing vm with
  | nil => exact ⟨[], vm, rfl, .refl vm, .nil⟩
  | cons run rest ih =>
    obtain ⟨v, vm₁, hnew, hgrows₁, hv⟩ := newTable_spec run.table vm
    obtain ⟨vs, vm₂, hrest, hgrows₂, hvs⟩ := ih vm₁
    refine ⟨v :: vs, vm₂, ?_, hgrows₁.trans hgrows₂, .cons (hv.mono hgrows₂) hvs⟩
    unfold StyledLine.runTables
    rw [Machine.run_bind_of_ok hnew, Machine.run_bind_of_ok hrest, Machine.run_pure]

namespace Payload

/-- The value is a table that stands for a payload. -/
def Stands (vm : Vm) : Payload → Value → Prop
  | .captures set, v => vm.Holds v set.table
  | .fields pairs, v => vm.Holds v (fieldTable pairs)
  | .styledLine line, v => ∃ vs, vm.Holds v (StyledLine.table vs) ∧
      List.Forall₂ (fun (run : StyleRun) w => vm.Holds w run.table) line.runs vs

/-- In a machine that grows a value stands for what it stood for. -/
theorem Stands.mono {vm vm' : Vm} {p : Payload} {v : Value} (h : p.Stands vm v)
    (hgrows : vm.Grows vm') : p.Stands vm' v := by
  cases p with
  | captures set => exact Vm.Holds.mono h hgrows
  | fields pairs => exact Vm.Holds.mono h hgrows
  | styledLine line =>
    obtain ⟨vs, htable, hruns⟩ := h
    exact ⟨vs, htable.mono hgrows, hruns.imp fun _ _ hrun => hrun.mono hgrows⟩

/-- A payload becomes a table that stands for it. -/
theorem argument_spec (p : Payload) (vm : Vm) :
    ∃ v vm', Machine.run p.argument vm = (.ok v, vm') ∧ vm.Grows vm' ∧ p.Stands vm' v := by
  cases p with
  | captures set => exact newTable_spec set.table vm
  | fields pairs => exact newTable_spec (fieldTable pairs) vm
  | styledLine line =>
    obtain ⟨vs, vm₁, hruns, hgrows₁, hvs⟩ := runTables_spec line.runs vm
    obtain ⟨v, vm₂, hnew, hgrows₂, hv⟩ := newTable_spec (StyledLine.table vs) vm₁
    refine ⟨v, vm₂, ?_, hgrows₁.trans hgrows₂, vs, hv, hvs.imp fun _ _ h => h.mono hgrows₂⟩
    unfold argument
    rw [Machine.run_bind_of_ok hruns, hnew]

/-- Payloads become tables that stand for them, in their order. -/
theorem arguments_spec (ps : List Payload) (vm : Vm) :
    ∃ vs vm', Machine.run (arguments ps) vm = (.ok vs, vm') ∧ vm.Grows vm' ∧
      List.Forall₂ (Stands vm') ps vs := by
  induction ps generalizing vm with
  | nil => exact ⟨[], vm, rfl, .refl vm, .nil⟩
  | cons p rest ih =>
    obtain ⟨v, vm₁, hnew, hgrows₁, hv⟩ := p.argument_spec vm
    obtain ⟨vs, vm₂, hrest, hgrows₂, hvs⟩ := ih vm₁
    refine ⟨v :: vs, vm₂, ?_, hgrows₁.trans hgrows₂, .cons (hv.mono hgrows₂) hvs⟩
    unfold arguments
    rw [Machine.run_bind_of_ok hnew, Machine.run_bind_of_ok hrest, Machine.run_pure]

end Payload

namespace Request

/-- The arguments of a request are its numbers, its texts, and the tables that stand for its
payloads. -/
theorem arguments_spec (r : Request) (vm : Vm) :
    ∃ tables vm', Machine.run r.arguments vm =
        (.ok (r.numbers.map Value.double ++ r.strings.map Value.text ++ tables), vm') ∧
      vm.Grows vm' ∧ List.Forall₂ (Payload.Stands vm') r.payloads tables := by
  obtain ⟨tables, vm', hrun, hgrows, htables⟩ := Payload.arguments_spec r.payloads vm
  refine ⟨tables, vm', ?_, hgrows, htables⟩
  unfold arguments
  rw [Machine.run_bind_of_ok hrun, Machine.run_pure]

end Request

end EventScripts
