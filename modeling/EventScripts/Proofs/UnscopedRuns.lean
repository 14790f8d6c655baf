import EventScripts.Proofs.Episodes
import EventScripts.Proofs.HostScope

/-!
# The origin and the note style of the host after a run without a scope

The execution of a source and the probe of a name run scripts too, the latter where a metatable
names a function, but not in a scope. What they leave is what was asked for last: if a script asked
for an origin, the host has the last one of these, else the one it had before, and likewise for the
style. So these two are kept exactly if what was asked for last, if anything, is what the host had.

It makes no difference whether the source ends with an error, and nothing but scripts changes the
two. In a scope the same operations would keep them.
-/

set_option autoImplicit false

namespace EventScripts

open Script

/-- A host that gets the origin and the style that a script asks for. -/
class ObligingHost (H : Type) [Host H] : Prop where
  origin_absorb_origin : ∀ (o : Origin) (h : H), Host.origin (Host.absorb (.origin o) h) = o
  style_absorb_origin : ∀ (o : Origin) (h : H),
    Host.style (Host.absorb (.origin o) h) = Host.style h
  origin_absorb_style : ∀ (t : NoteStyle) (h : H),
    Host.origin (Host.absorb (.style t) h) = Host.origin h
  style_absorb_style : ∀ (t : NoteStyle) (h : H), Host.style (Host.absorb (.style t) h) = t

instance : ObligingHost Document where
  origin_absorb_origin _ _ := rfl
  style_absorb_origin _ _ := rfl
  origin_absorb_style _ _ := rfl
  style_absorb_style _ _ := rfl

/-! ## What scripts ask for -/

/-- The origin that an effect asks for. -/
def Script.Effect.origin? : Effect → Option Origin
  | .origin o => some o
  | _ => none

/-- The style that an effect asks for. -/
def Script.Effect.style? : Effect → Option NoteStyle
  | .style t => some t
  | _ => none

/-- The origin that was asked for last, else the one before. -/
def lastOrigin (effects : List Effect) (before : Origin) : Origin :=
  (effects.filterMap Effect.origin?).getLastD before

/-- The style that was asked for last, else the one before. -/
def lastStyle (effects : List Effect) (before : NoteStyle) : NoteStyle :=
  (effects.filterMap Effect.style?).getLastD before

/-- What is asked for later counts. -/
theorem getLastD_filterMap_cons {β : Type} (asks : Effect → Option β) (e : Effect)
    (es : List Effect) (before : β) :
    ((e :: es).filterMap asks).getLastD before =
      (es.filterMap asks).getLastD ((asks e).getD before) := by
  rw [List.filterMap_cons]
  cases asks e with
  | none => rfl
  | some asked => exact List.getLastD_cons ..

namespace Surroundings

variable {H : Type} [Host H] [ObligingHost H]

/-- An effect leaves the origin and the style that it asks for, and else those before. -/
theorem current_apply (a : Surroundings H) (e : Effect) :
    (a.apply e).current =
      a.current.map fun c => (e.origin?.getD c.1, e.style?.getD c.2) := by
  have hsame : a.current.map (fun c => (c.1, c.2)) = a.current := by
    exact congrFun Option.map_id a.current
  cases e with
  | record values => exact hsame.symm
  | log line => exact hsame.symm
  | origin o =>
    unfold current apply
    rw [host_onHost, Option.map_map, Option.map_map]
    congr 1
    funext h
    simp only [Function.comp, ObligingHost.origin_absorb_origin, ObligingHost.style_absorb_origin]
    rfl
  | style t =>
    unfold current apply
    rw [host_onHost, Option.map_map, Option.map_map]
    congr 1
    funext h
    simp only [Function.comp, ObligingHost.origin_absorb_style, ObligingHost.style_absorb_style]
    rfl

/-- Effects leave the origin and the style that they ask for last, and else those before. -/
theorem current_applyAll (effects : List Effect) (a : Surroundings H) :
    (a.applyAll effects).current =
      a.current.map fun c => (lastOrigin effects c.1, lastStyle effects c.2) := by
  unfold applyAll
  induction effects generalizing a with
  | nil => exact (congrFun Option.map_id a.current).symm
  | cons e es ih =>
    rw [List.foldl_cons, ih, current_apply, Option.map_map]
    congr 1
    funext c
    unfold lastOrigin lastStyle
    rw [getLastD_filterMap_cons, getLastD_filterMap_cons]
    rfl

end Surroundings

/-! ## Runs without a scope -/

namespace Operation

variable {H : Type} [Host H]

/-- What calling a loaded source does in the machine. -/
def codeCall (live : Live) (code : Code) : Machine (Except String (List Value)) := do
  match ← Machine.newFunction (.script code) with
  | .function f => live.invoker.call f []
  | _ => pure (.ok [])

/-- The call of a loaded source is a protected call on the machine. -/
theorem callCode_eq (live : Live) (code : Code) :
    (callCode live code : OperationOn H (Except String (List Value))) =
      runProtected live (codeCall live code) := by
  rfl

/-- What the execution of a source asks for. -/
def executionEffects (s : Session H) (source : List Step) (label : String) : List Effect :=
  match s.engine.live, load (textBytes label) source with
  | some live, .ok code =>
    (Machine.run (codeCall live code) (live.vm.among s.around.files)).2.effects
  | _, _ => []

/-- What the probe of a name asks for. -/
def probeEffects (s : Session H) (name : String) : List Effect :=
  match s.engine.live with
  | some live => (Machine.run (lookupFunction name) (live.vm.among s.around.files)).2.effects
  | none => []

/-- The scripts of an execution change the origin and the style as they ask. -/
theorem current_attempt (s : Session H) {live : Live} (hlive : s.engine.live = some live)
    (source : List Step) (label : String) :
    current (s.after (attempt live source label)) =
      (s.around.applyAll (executionEffects s source label)).current := by
  unfold attempt executionEffects
  rw [hlive]
  cases load (textBytes label) source with
  | error e => rfl
  | ok code =>
    dsimp only
    unfold current
    rw [Session.after_bind, Session.after_map, callCode_eq, around_runProtected]
    rfl

/-- The functions that a probe meets change the origin and the style as they ask. -/
theorem current_probed (s : Session H) (name : String) :
    current (s.after (resolveToken name)) =
      (s.around.applyAll (probeEffects s name)).current := by
  unfold resolveToken probeEffects
  rw [Session.after_bind, Session.answer_get, Session.after_get]
  dsimp only
  cases s.engine.live with
  | none => rfl
  | some live => rfl

variable [LawfulHost H] [ObligingHost H]

/-- The execution of a source leaves the origin and the style that it asks for last. -/
theorem current_execute (s : Session H) (source : List Step) (label : String) :
    current (s.after (execute source label)) =
      (current s).map fun c =>
        (lastOrigin (executionEffects s source label) c.1,
          lastStyle (executionEffects s source label) c.2) := by
  rw [← Surroundings.current_applyAll]
  unfold execute
  rw [Session.after_bind, Session.answer_get, Session.after_get]
  cases hlive : s.engine.live with
  | none =>
    unfold executionEffects
    rw [hlive]
    rfl
  | some live =>
    dsimp only
    rw [runSource_eq, Session.after_bind, ← current_attempt s hlive]
    exact unnoted_current.concludeAttempt label _ _

omit [LawfulHost H] in
/-- The probe of a name leaves the origin and the style that it asks for last. -/
theorem current_resolveToken (s : Session H) (name : String) :
    current (s.after (resolveToken name)) =
      (current s).map fun c =>
        (lastOrigin (probeEffects s name) c.1, lastStyle (probeEffects s name) c.2) := by
  rw [← Surroundings.current_applyAll, ← current_probed]

/-- The execution of a source and the probe of a name leave the origin and the style of the host as
they were exactly if these are what was asked for last, if anything. That is so if the engine is
closed, if the source does not load, and if no function runs in the lookup of the name; in a scope
both operations would always leave the two as they were. -/
theorem unscoped_runs_keep_host_iff (s : Session H) {o : Origin} {t : NoteStyle}
    (hcurrent : current s = some (o, t)) :
    (∀ source label, current (s.after (execute source label)) = current s ↔
      lastOrigin (executionEffects s source label) o = o ∧
      lastStyle (executionEffects s source label) t = t) ∧
    (∀ name, current (s.after (resolveToken name)) = current s ↔
      lastOrigin (probeEffects s name) o = o ∧ lastStyle (probeEffects s name) t = t) ∧
    (∀ source label, s.engine.live = none ∨ (load (textBytes label) source).isOk = false →
      current (s.after (execute source label)) = current s) ∧
    (∀ name, (∀ live, s.engine.live = some live → live.vm.settled.peek name ≠ none) →
      current (s.after (resolveToken name)) = current s) ∧
    (∀ source label, current (s.after (inScope (execute source label))) = current s) ∧
    (∀ name, current (s.after (inScope (resolveToken name))) = current s) := by
  have hkept : ∀ (effects : List Effect) (u : Session H),
      current u = (current s).map (fun c => (lastOrigin effects c.1, lastStyle effects c.2)) →
      (current u = current s ↔ lastOrigin effects o = o ∧ lastStyle effects t = t) := by
    intro effects u hu
    rw [hu, hcurrent, Option.map_some, Option.some.injEq, Prod.mk.injEq]
  refine ⟨?_, ?_, ?_, ?_, ?_, ?_⟩
  · intro source label
    exact hkept _ _ (current_execute s source label)
  · intro name
    exact hkept _ _ (current_resolveToken s name)
  · intro source label hnone
    have heffects : executionEffects s source label = [] := by
      unfold executionEffects
      rcases hnone with hclosed | hload
      · rw [hclosed]
      · cases hloaded : load (textBytes label) source with
        | error e => cases s.engine.live <;> rfl
        | ok code =>
          rw [hloaded] at hload
          cases hload
    rw [hkept _ _ (current_execute s source label), heffects]
    exact ⟨rfl, rfl⟩
  · intro name hquiet
    have heffects : probeEffects s name = [] := by
      unfold probeEffects
      cases hlive : s.engine.live with
      | none => rfl
      | some live =>
        obtain ⟨found, hfound⟩ := Option.ne_none_iff_exists'.mp (hquiet live hlive)
        dsimp only
        rw [run_lookupFunction_of_peek ((live.vm.peek_among _ _).trans hfound)]
        rfl
    rw [hkept _ _ (current_resolveToken s name), heffects]
    exact ⟨rfl, rfl⟩
  · intro source label
    exact keeps_current_inScope (keeps_footing_execute source label) s
  · intro name
    exact keeps_current_inScope (inner_footing.resolveToken name) s

/-- A source that asks for an origin, and that makes a table whose metatable names a function that
asks for one. -/
def meddlingSource (origin : String) : List Step :=
  [.setGlobal (textBytes "t") (.table []),
    .run (.call (.global (textBytes "setmetatable"))
      [.global (textBytes "t"), .table [.keyed (.string (textBytes "__index")) (.function
        [.run (.call (.global (textBytes "set_source")) [.string (textBytes "hotspot")])])]]),
    .run (.call (.global (textBytes "set_source")) [.string (textBytes origin)])]

/-- A source that asks for the origin which the host has leaves it; one that asks for another one
does not, and neither does the probe of a name that meets the function. -/
theorem unscoped_runs_keep_host_iff_meddled :
    current (meddled.after (execute (meddlingSource "user_typing") "Script file")) =
      current meddled ∧
    current (meddled.after (execute (meddlingSource "sandbox") "Script file")) ≠
      current meddled ∧
    current (meddled.after (inScope (execute (meddlingSource "sandbox") "Script file"))) =
      current meddled := by
  obtain ⟨hexecute, -, -, -, hscope, -⟩ :=
    unscoped_runs_keep_host_iff meddled (o := .userTyping) (t := .bold) rfl
  refine ⟨(hexecute _ _).mpr (by decide +kernel), ?_, hscope _ _⟩
  intro hkept
  have hlast := ((hexecute (meddlingSource "sandbox") "Script file").mp hkept).1
  have hother : lastOrigin
      (executionEffects meddled (meddlingSource "sandbox") "Script file") .userTyping ≠
        .userTyping := by
    decide +kernel
  exact hother hlast

/-- A source leaks the origin that it asks for, and a probe one that is asked for on the way. -/
theorem unscoped_runs_leak :
    let s := meddled.after (execute (meddlingSource "sandbox") "Script file")
    current meddled = some (.userTyping, .bold) ∧
    current s = some (.sandbox, .bold) ∧
    current (s.after (resolveToken "t.f")) = some (.hotspot, .bold) := by
  decide +kernel

end Operation

end EventScripts
