import EventScripts.Proofs.CallAccounts
import EventScripts.Proofs.TokenSafety

/-!
# Counters stay small

An action makes at most one machine, counts at most two episodes, and adds at most one to an
invocation counter. So none of the counters of an engine can be larger than twice the number of
actions that its user has taken, and it makes no difference that they are unbounded here: in a run
that is short enough to happen all of them fit into 64 bits.
-/

set_option autoImplicit false

namespace EventScripts

open Script

variable {H : Type}

/-- All counts are at most a number. -/
structure Stats.AtMost (c : Stats) (n : Nat) : Prop where
  protectedCalls : c.protectedCalls ≤ n
  runtimeErrors : c.runtimeErrors ≤ n
  compileErrors : c.compileErrors ≤ n
  resolutionFailures : c.resolutionFailures ≤ n
  skipped : c.skipped ≤ n

/-- An episode adds at most one to each count. -/
theorem Stats.AtMost.foldl_record {c : Stats} {n : Nat} (h : c.AtMost n) (es : List (Episode H)) :
    (es.foldl Stats.record c).AtMost (n + es.length) := by
  rw [Stats.foldl_record]
  exact ⟨Nat.add_le_add h.protectedCalls List.countP_le_length,
    Nat.add_le_add h.runtimeErrors List.countP_le_length,
    Nat.add_le_add h.compileErrors List.countP_le_length,
    Nat.add_le_add h.resolutionFailures List.countP_le_length,
    Nat.add_le_add h.skipped List.countP_le_length⟩

variable [Host H]

namespace Session

variable (s : Session H)

/-- A source is one episode at most. -/
theorem length_executed_le (source : List Step) (label : String) :
    (s.executed source label).length ≤ 1 := by
  unfold executed
  cases s.engine.live with
  | none => exact Nat.zero_le 1
  | some live => exact Nat.le_refl 1

/-- The sandbox script is one episode at most. -/
theorem length_sandboxed_le : s.sandboxed.length ≤ 1 := by
  unfold sandboxed
  split
  · exact Nat.le_refl 1
  · exact Nat.zero_le 1

/-- An opening is two episodes at most: the function that checks return codes and the sandbox
script. -/
theorem length_opened_le : s.opened.length ≤ 2 := by
  unfold opened
  split
  · exact Nat.zero_le 2
  · split
    · exact Nat.zero_le 2
    · rw [List.length_append]
      exact Nat.add_le_add (length_executed_le _ _ _) (length_sandboxed_le _)

/-- A dispatch is one episode at most. -/
theorem length_called_le (token : Token) (r : Request) (arguments : Machine (List Value)) :
    (s.called token r arguments).length ≤ 1 := by
  unfold called
  cases s.engine.live with
  | none => exact Nat.zero_le 1
  | some live =>
    dsimp only
    split <;> exact Nat.le_refl 1

end Session

namespace World

variable (w : World H)

/-- An action is two episodes at most. -/
theorem length_episodes_le (a : Action H) : (w.episodes a).length ≤ 2 := by
  have hone : ∀ {n : Nat}, n ≤ 1 → n ≤ 2 := fun h => Nat.le_succ_of_le h
  cases a with
  | openEngine => exact w.session.length_opened_le
  | reset => exact (w.session.after Operation.close).length_opened_le
  | execute source label => exact hone (w.session.length_executed_le source label)
  | dispatch site r counter =>
    exact hone (w.session.length_called_le (w.tokens site) r r.arguments)
  | dispatchText site r text counter =>
    exact hone (w.session.length_called_le (w.tokens site) r (pure (textArguments text)))
  | _ => exact Nat.zero_le 2

/-- A run has two episodes for each action at most. -/
theorem length_episodesIn_le (actions : List (Action H)) :
    (w.episodesIn actions).length ≤ 2 * actions.length := by
  unfold episodesIn
  induction actions generalizing w with
  | nil => exact Nat.le_refl 0
  | cons a rest ih =>
    rw [along, List.flatten_cons, List.length_append, List.length_cons]
    have hfirst := w.length_episodes_le a
    have hrest := ih (w.after a)
    omega

/-- An action begins at most one generation. -/
theorem generation_after_le (a : Action H) :
    (w.after a).standing.generation ≤ w.standing.generation + 1 := by
  cases h : w.makesMachine a with
  | true =>
    obtain ⟨invoker, hmade⟩ := standing_after_of_makes h
    rw [hmade]
  | false =>
    rw [generation_after_of_makesNone h]
    exact Nat.le_succ _

/-- A run begins at most one generation for each action. -/
theorem generation_run_le (actions : List (Action H)) :
    (w.run actions).standing.generation ≤ w.standing.generation + actions.length := by
  induction actions generalizing w with
  | nil => exact Nat.le_refl _
  | cons a rest ih =>
    rw [run_cons, List.length_cons]
    have hfirst := w.generation_after_le a
    have hrest := ih (w.after a)
    omega

/-- An action adds at most one to an invocation counter. -/
theorem growth_le (a : Action H) : w.growth a ≤ 1 := by
  cases hc : a.call? with
  | none =>
    unfold growth
    rw [hc]
    exact Nat.zero_le 1
  | some c =>
    have hd := verdict_of_call w hc
    obtain ⟨-, -, -, hinvoked, hnot⟩ := account_of_call w hc hd
    unfold growth
    rw [hc, hd]
    dsimp only
    generalize (w.session.answer (w.callOf c)).map (fun _ => ()) = d at *
    by_cases hanswer : d.answer = .ok (.invoked ())
    · rw [hinvoked hanswer]
      omega
    · rw [hnot hanswer]
      omega

/-- All that the users of an engine have added to their invocation counters is at most the number of
actions. -/
theorem sum_growth_le (actions : List (Action H)) :
    (w.along growth actions).sum ≤ actions.length := by
  induction actions generalizing w with
  | nil => exact Nat.le_refl 0
  | cons a rest ih =>
    rw [along, List.sum_cons, List.length_cons]
    have hfirst := w.growth_le a
    have hrest := ih (w.after a)
    omega

variable {w}

/-- After a run of a new engine no counter is larger than twice the number of actions: the counts,
the generation of the engine and of every token, and the growth of all invocation counters. -/
theorem counters_at_most (hnew : w.New) (actions : List (Action H)) :
    (w.run actions).session.engine.stats.AtMost (2 * actions.length) ∧
      (w.run actions).session.engine.generation ≤ actions.length ∧
      (∀ site, ((w.run actions).tokens site).generation ≤ actions.length) ∧
      (w.along growth actions).sum ≤ actions.length := by
  obtain ⟨settings, selection, presenter, clock, hengine⟩ := hnew.1
  have hgeneration : (w.run actions).standing.generation ≤ actions.length := by
    have hgrown := w.generation_run_le actions
    unfold standing at hgrown
    rw [hengine] at hgrown
    exact hgrown.trans (Nat.le_of_eq (Nat.zero_add _))
  have hzero : w.session.engine.stats.AtMost 0 := by
    rw [hengine]
    exact ⟨Nat.le_refl 0, Nat.le_refl 0, Nat.le_refl 0, Nat.le_refl 0, Nat.le_refl 0⟩
  have hcounted := hzero.foldl_record (w.episodesIn actions)
  rw [← stats_run, Nat.zero_add] at hcounted
  have hepisodes := w.length_episodesIn_le actions
  refine ⟨?_, hgeneration, fun site => ?_, w.sum_growth_le actions⟩
  · exact ⟨hcounted.protectedCalls.trans hepisodes, hcounted.runtimeErrors.trans hepisodes,
      hcounted.compileErrors.trans hepisodes, hcounted.resolutionFailures.trans hepisodes,
      hcounted.skipped.trans hepisodes⟩
  · exact (timely_run (timely_of_new hnew) actions site).trans hgeneration

/-- So no counter of a new engine overflows 64 bits within so many actions as nobody can take. -/
theorem counters_fit (hnew : w.New) {actions : List (Action H)}
    (hlength : actions.length < 2 ^ 63) :
    (w.run actions).session.engine.stats.AtMost (2 ^ 64 - 1) ∧
      (w.run actions).session.engine.generation < 2 ^ 64 ∧
      ∀ site, ((w.run actions).tokens site).generation < 2 ^ 64 := by
  obtain ⟨hstats, hgeneration, htokens, -⟩ := counters_at_most hnew actions
  have hbound : 2 * actions.length ≤ 2 ^ 64 - 1 := by omega
  refine ⟨?_, by omega, fun site => ?_⟩
  · exact ⟨hstats.protectedCalls.trans hbound, hstats.runtimeErrors.trans hbound,
      hstats.compileErrors.trans hbound, hstats.resolutionFailures.trans hbound,
      hstats.skipped.trans hbound⟩
  · have htoken := htokens site
    omega

end World

end EventScripts
