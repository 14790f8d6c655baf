import EventScripts.Proofs.EngineRuns
import EventScripts.Proofs.SiteCalls

/-!
# Broken tokens over whole runs

A dispatch that fails breaks the token of its site for the generation of the machine that it ran
in. The token cannot come back by itself: until an action of the run makes a machine, every
dispatch on the site is skipped. After such an action the token is behind the generation of the
engine, and the first dispatch on it while the engine is open starts over as a new token would.

Two facts about a site carry this along a run. A stuck site has a broken token of the present
generation; only a new machine or another token ends that. A due site has a token of an earlier
generation; only a dispatch while the engine is open or another token ends that. A site becomes due
when a machine is made because no token is ever ahead of its engine.
-/

set_option autoImplicit false

namespace EventScripts

open Script

namespace Token

/-! ## Bringing a token into a generation -/

/-- A token of an earlier generation starts over. -/
theorem sync_of_lt {t : Token} {generation : Nat} (h : t.generation < generation) :
    t.sync generation = ⟨.unresolved, generation⟩ := by
  unfold sync
  rw [if_pos h]

/-- A token that is not behind stays as it is. -/
theorem sync_of_le {t : Token} {generation : Nat} (h : generation ≤ t.generation) :
    t.sync generation = t := by
  unfold sync
  rw [if_neg (Nat.not_lt.mpr h)]

/-- A token that is not ahead belongs to the generation afterwards. -/
theorem generation_sync {t : Token} {generation : Nat} (h : t.generation ≤ generation) :
    (t.sync generation).generation = generation := by
  by_cases hlt : t.generation < generation
  · rw [sync_of_lt hlt]
  · rw [sync_of_le (Nat.not_lt.mp hlt)]
    omega

/-- A token is brought into a generation unless it is ahead of that. -/
theorem generation_sync_eq_max (t : Token) (generation : Nat) :
    (t.sync generation).generation = max t.generation generation := by
  unfold sync
  split
  · rw [Nat.max_eq_right (by omega)]
  · rw [Nat.max_eq_left (by omega)]

/-- A token breaks in its generation. -/
@[simp] theorem generation_markBroken (t : Token) : t.markBroken.generation = t.generation := by
  rfl

/-- A token is resolved in its generation. -/
@[simp] theorem generation_markResolved (t : Token) :
    t.markResolved.generation = t.generation := by
  unfold markResolved
  split <;> rfl

end Token

namespace Operation

variable {H : Type} [Host H]

/-- A run leaves the token in its generation. -/
theorem SiteRun.generation_dispatched (run : SiteRun) (token : Token) (r : Request)
    (counter : Nat) : (run.dispatched token r counter).token.generation = token.generation := by
  cases run <;> simp [SiteRun.dispatched]

/-- A run that ends in an error breaks the token. -/
theorem SiteRun.isBroken_dispatched {run : SiteRun} {token : Token} {r : Request} {counter : Nat}
    {e : ScriptError} (h : (run.dispatched token r counter).answer = .error e) :
    (run.dispatched token r counter).token.isBroken = true := by
  cases run with
  | notFound => rfl
  | failed message => rfl
  | returned results => cases h

/-- A dispatch leaves a token that is not ahead of the engine not ahead of it. -/
theorem generation_token_callSite {s : Session H} {token : Token} (r : Request)
    (arguments : Machine (List Value)) (counter : Nat)
    (h : token.generation ≤ s.engine.generation) :
    (s.answer (callSite token r arguments counter)).token.generation ≤ s.engine.generation := by
  cases hlive : s.engine.live with
  | none =>
    rw [(callSite_of_closed _ _ _ _ hlive).2]
    exact h
  | some live =>
    cases hb : (token.sync s.engine.generation).isBroken with
    | true =>
      rw [(callSite_of_broken _ _ _ hlive hb).2]
      exact Nat.le_of_eq (Token.generation_sync h)
    | false =>
      rw [(callSite_of_open _ _ _ hlive hb).2, answer_concludeSite, SiteRun.generation_dispatched]
      exact Nat.le_of_eq (Token.generation_sync h)

/-- A probe gives a token of the generation of the engine. -/
theorem generation_resolveToken (s : Session H) (name : String) :
    (s.answer (resolveToken name)).generation = s.engine.generation := by
  unfold resolveToken
  rw [Session.answer_bind, Session.after_get, Session.answer_get]
  dsimp only
  cases s.engine.live <;> rfl

/-- A dispatch that fails was made while the engine was open, and leaves a broken token of the
generation of the engine. -/
theorem token_of_callSite_error {s : Session H} {token : Token} {r : Request}
    {arguments : Machine (List Value)} {counter : Nat} {e : ScriptError}
    (h : token.generation ≤ s.engine.generation)
    (he : (s.answer (callSite token r arguments counter)).answer = .error e) :
    (s.answer (callSite token r arguments counter)).token.isBroken = true ∧
    (s.answer (callSite token r arguments counter)).token.generation = s.engine.generation := by
  cases hlive : s.engine.live with
  | none =>
    rw [(callSite_of_closed _ _ _ _ hlive).2] at he
    cases he
  | some live =>
    cases hb : (token.sync s.engine.generation).isBroken with
    | true =>
      rw [(callSite_of_broken _ _ _ hlive hb).2] at he
      cases he
    | false =>
      rw [(callSite_of_open _ _ _ hlive hb).2, answer_concludeSite] at he ⊢
      refine ⟨SiteRun.isBroken_dispatched he, ?_⟩
      rw [SiteRun.generation_dispatched, Token.generation_sync h]

end Operation

namespace World

variable {H : Type} [Host H]

/-! ## Tokens along a run -/

omit [Host H] in
/-- A site has the token that was settled for it. -/
@[simp] theorem tokens_settle_self (w : World H) (site : Nat) (token : Token) :
    (w.settle site token).tokens site = token := by
  unfold settle
  exact Function.update_self ..

omit [Host H] in
/-- Every other site keeps its token. -/
theorem tokens_settle_of_ne (w : World H) {site other : Nat} (token : Token) (h : site ≠ other) :
    (w.settle other token).tokens site = w.tokens site := by
  unfold settle
  exact Function.update_of_ne h ..

/-- A dispatch leaves its site with the token of its answer. -/
theorem tokens_after_of_call {a : Action H} {c : SiteCall} (w : World H) (h : a.call? = some c) :
    (w.after a).tokens c.site = (w.session.answer (w.callOf c)).token := by
  rw [after_of_call w h, tokens_settle_self]

/-- A site keeps its token as long as it is not called and gets no other one. -/
theorem tokens_after_of_ne {a : Action H} {site : Nat} (w : World H)
    (hkept : a.renews site = false) (hcall : ∀ c, a.call? = some c → c.site ≠ site) :
    (w.after a).tokens site = w.tokens site := by
  cases a with
  | probe target name =>
    have hne : site ≠ target := by
      intro heq
      simp [Action.renews, heq] at hkept
    exact tokens_settle_of_ne _ _ hne
  | copy origin target =>
    have hne : site ≠ target := by
      intro heq
      simp [Action.renews, heq] at hkept
    exact tokens_settle_of_ne _ _ hne
  | dispatch target r counter => exact tokens_settle_of_ne _ _ (hcall _ rfl).symm
  | dispatchText target r text counter => exact tokens_settle_of_ne _ _ (hcall _ rfl).symm
  | _ => rfl

/-- No token is ahead of the engine. -/
def Timely (w : World H) : Prop :=
  ∀ site, (w.tokens site).generation ≤ w.standing.generation

omit [Host H] in
/-- New tokens are not ahead of a new engine. -/
theorem timely_of_new {w : World H} (h : w.New) : w.Timely := by
  intro site
  rw [h.2 site]
  exact Nat.zero_le _

/-- No action puts a token ahead of the engine. -/
theorem timely_after {w : World H} (h : w.Timely) (a : Action H) : (w.after a).Timely := by
  intro site
  have hgrows : w.standing.generation ≤ (w.after a).standing.generation := generation_le_after w a
  refine Nat.le_trans ?_ hgrows
  by_cases hcall : ∃ c, a.call? = some c ∧ c.site = site
  · obtain ⟨c, hc, rfl⟩ := hcall
    rw [tokens_after_of_call w hc]
    exact Operation.generation_token_callSite _ _ _ (h c.site)
  · by_cases hkept : a.renews site = false
    · rw [tokens_after_of_ne w hkept fun c hc hsite => hcall ⟨c, hc, hsite⟩]
      exact h site
    · cases a with
      | probe target name =>
        have heq : target = site := by simpa [Action.renews] using hkept
        subst heq
        change ((w.on _).settle target _ |>.tokens target).generation ≤ _
        rw [tokens_settle_self, Operation.generation_resolveToken]
        exact Nat.le_refl _
      | copy origin target =>
        have heq : target = site := by simpa [Action.renews] using hkept
        subst heq
        change ((w.settle target _).tokens target).generation ≤ _
        rw [tokens_settle_self]
        exact h origin
      | _ => exact absurd rfl hkept

/-- No run puts a token ahead of the engine. -/
theorem timely_run {w : World H} (h : w.Timely) (actions : List (Action H)) :
    (w.run actions).Timely := by
  induction actions generalizing w with
  | nil => exact h
  | cons a rest ih => exact ih (timely_after h a)

/-! ## Stuck sites -/

/-- Whether an action is a dispatch that fails. -/
def fails (w : World H) (a : Action H) : Bool :=
  match w.verdict a with
  | some d => !d.answer.isOk
  | none => false

/-- The world in which a skipped dispatch has been counted, which it is when the engine is open. -/
def countSkipped (w : World H) : World H :=
  if w.isOpen then w.on (Operation.count fun c => { c with skipped := c.skipped + 1 }) else w

omit [Host H] in
/-- Counting a skipped dispatch leaves what stands of the engine, and all tokens. -/
theorem countSkipped_frame (w : World H) :
    w.countSkipped.standing = w.standing ∧ w.countSkipped.tokens = w.tokens := by
  unfold countSkipped
  split <;> exact ⟨rfl, rfl⟩

/-- A site whose token is broken in the present generation. -/
def Stuck (w : World H) (site : Nat) : Prop :=
  (w.tokens site).isBroken = true ∧ (w.tokens site).generation = w.standing.generation

omit [Host H] in
/-- A token that a site already has changes nothing. -/
theorem settle_tokens (w : World H) (site : Nat) : w.settle site (w.tokens site) = w := by
  unfold settle
  rw [Function.update_eq_self]

/-- A dispatch on a stuck site is skipped and changes nothing but the count of skipped ones. -/
theorem call_of_stuck {w : World H} {a : Action H} {c : SiteCall} (h : w.Stuck c.site)
    (hc : a.call? = some c) :
    w.verdict a = some ⟨w.tokens c.site, c.counter, .ok .skipped⟩ ∧
    w.after a = w.countSkipped := by
  have hsync : (w.tokens c.site).sync w.session.engine.generation = w.tokens c.site :=
    Token.sync_of_le (Nat.le_of_eq h.2.symm)
  rw [verdict_of_call w hc, after_of_call w hc]
  unfold callOf countSkipped isOpen Engine.isOpen on
  cases hlive : w.session.engine.live with
  | none =>
    obtain ⟨hafter, hanswer⟩ := Operation.callSite_of_closed (w.tokens c.site) c.request
      c.arguments c.counter hlive
    rw [hafter, hanswer]
    exact ⟨rfl, settle_tokens w c.site⟩
  | some live =>
    have hbroken : ((w.tokens c.site).sync w.session.engine.generation).isBroken = true := by
      rw [hsync]
      exact h.1
    obtain ⟨hafter, hanswer⟩ := Operation.callSite_of_broken c.request c.arguments c.counter
      hlive hbroken
    rw [hafter, hanswer, hsync]
    exact ⟨rfl, settle_tokens (w.on _) c.site⟩

/-- A dispatch that fails leaves its site stuck. -/
theorem stuck_of_fails {w : World H} {a : Action H} {c : SiteCall} (ht : w.Timely)
    (hc : a.call? = some c) (hf : w.fails a = true) : (w.after a).Stuck c.site := by
  have herror : ∃ e, (w.session.answer (w.callOf c)).answer = .error e := by
    unfold fails at hf
    rw [verdict_of_call w hc] at hf
    cases hanswer : (w.session.answer (w.callOf c)).answer with
    | error e => exact ⟨e, rfl⟩
    | ok outcome =>
      rw [Dispatched.map, hanswer] at hf
      cases hf
  obtain ⟨e, he⟩ := herror
  obtain ⟨hbroken, hgeneration⟩ := Operation.token_of_callSite_error (ht c.site) he
  have hstanding : (w.after a).standing = w.standing := by
    rw [after_of_call w hc]
    exact standing_on w (Operation.keeps_footing_callSite _ _ _ _)
  unfold Stuck
  rw [tokens_after_of_call w hc, hstanding]
  exact ⟨hbroken, hgeneration⟩

/-- A stuck site stays stuck until a machine is made or the site gets another token. -/
theorem stuck_after {w : World H} {a : Action H} {site : Nat} (h : w.Stuck site)
    (hkept : a.renews site = false) (hnone : w.makesMachine a = false) :
    (w.after a).Stuck site := by
  by_cases hcall : ∃ c, a.call? = some c ∧ c.site = site
  · obtain ⟨c, hc, rfl⟩ := hcall
    unfold Stuck
    rw [(call_of_stuck h hc).2, (countSkipped_frame w).1, (countSkipped_frame w).2]
    exact h
  · unfold Stuck
    rw [tokens_after_of_ne w hkept fun c hc hsite => hcall ⟨c, hc, hsite⟩,
      generation_after_of_makesNone hnone]
    exact h

/-- A stuck site stays stuck along a run that makes no machine and gives it no other token. -/
theorem stuck_run {w : World H} {actions : List (Action H)} {site : Nat} (h : w.Stuck site)
    (hkept : ∀ a ∈ actions, a.renews site = false) (hnone : w.makesMachineIn actions = false) :
    (w.run actions).Stuck site := by
  induction actions generalizing w with
  | nil => exact h
  | cons a rest ih =>
    simp only [makesMachineIn, Bool.or_eq_false_iff] at hnone
    have hstep : (w.after a).Stuck site := stuck_after h (hkept a List.mem_cons_self) hnone.1
    exact ih hstep (fun x hx => hkept x (List.mem_cons_of_mem a hx)) hnone.2

/-! ## Due sites -/

/-- A site whose token is of an earlier generation. -/
def Due (w : World H) (site : Nat) : Prop :=
  (w.tokens site).generation < w.standing.generation

/-- Whether an action is a dispatch on a site while the engine is open. -/
def tries (w : World H) (site : Nat) (a : Action H) : Bool :=
  w.isOpen && (a.call?.map (·.site)) == some site

/-- Whether some action of a run is a dispatch on a site while the engine is open. -/
def triesIn (w : World H) (site : Nat) : List (Action H) → Bool
  | [] => false
  | a :: rest => w.tries site a || (w.after a).triesIn site rest

/-- A machine that is made makes every site due. -/
theorem due_after_of_makes {w : World H} {a : Action H} (ht : w.Timely)
    (h : w.makesMachine a = true) (site : Nat) : (w.after a).Due site := by
  have htoken : (w.after a).tokens site = w.tokens site := by
    cases a with
    | openEngine => rfl
    | reset => rfl
    | _ => cases h
  obtain ⟨invoker, hmade⟩ := standing_after_of_makes h
  unfold Due
  rw [htoken, hmade]
  exact Nat.lt_succ_of_le (ht site)

/-- A due site stays due until it is called while the engine is open, or gets another token. -/
theorem due_after {w : World H} {a : Action H} {site : Nat} (h : w.Due site)
    (hkept : a.renews site = false) (htries : w.tries site a = false) :
    (w.after a).Due site := by
  have htoken : (w.after a).tokens site = w.tokens site := by
    by_cases hcall : ∃ c, a.call? = some c ∧ c.site = site
    · obtain ⟨c, hc, rfl⟩ := hcall
      have hclosed : w.session.engine.live = none := by
        simpa [tries, hc, isOpen, Engine.isOpen] using htries
      rw [tokens_after_of_call w hc]
      unfold callOf
      rw [(Operation.callSite_of_closed _ _ _ _ hclosed).2]
    · exact tokens_after_of_ne w hkept fun c hc hsite => hcall ⟨c, hc, hsite⟩
  unfold Due
  rw [htoken]
  exact Nat.lt_of_lt_of_le h (generation_le_after w a)

/-- A due site stays due along a run that neither calls it while the engine is open nor gives it
another token. -/
theorem due_run {w : World H} {actions : List (Action H)} {site : Nat} (h : w.Due site)
    (hkept : ∀ a ∈ actions, a.renews site = false) (htries : w.triesIn site actions = false) :
    (w.run actions).Due site := by
  induction actions generalizing w with
  | nil => exact h
  | cons a rest ih =>
    simp only [triesIn, Bool.or_eq_false_iff] at htries
    have hstep : (w.after a).Due site := due_after h (hkept a List.mem_cons_self) htries.1
    exact ih hstep (fun x hx => hkept x (List.mem_cons_of_mem a hx)) htries.2

/-- A dispatch on a due site of an open engine looks up its function, exactly as one on a new token
does. -/
theorem call_of_due {w : World H} {a : Action H} {c : SiteCall} {live : Live}
    (h : w.Due c.site) (hc : a.call? = some c) (hlive : w.session.engine.live = some live) :
    w.verdict a = (w.settle c.site .fresh).verdict a ∧
    w.after a = (w.settle c.site .fresh).after a ∧
    ∃ d, w.verdict a = some d ∧ d.answer ≠ .ok .skipped ∧
      (d.answer = .error (.resolution c.request.procedure) ↔
        (Machine.run (lookupFunction c.request.procedure)
          (live.vm.among w.session.around.files)).1 = .ok none) := by
  have hbehind : (w.tokens c.site).generation < w.session.engine.generation := h
  have hpositive : Token.fresh.generation < w.session.engine.generation := Nat.zero_lt_of_lt h
  have hsync : (w.tokens c.site).sync w.session.engine.generation =
      Token.fresh.sync w.session.engine.generation := by
    rw [Token.sync_of_lt hbehind, Token.sync_of_lt hpositive]
  have hfresh : (Token.fresh.sync w.session.engine.generation).isBroken = false := by
    rw [Token.sync_of_lt hpositive]
    rfl
  have hopen : ((w.tokens c.site).sync w.session.engine.generation).isBroken = false := by
    rw [hsync, hfresh]
  obtain ⟨hafter, hanswer⟩ :=
    Operation.callSite_of_open c.request c.arguments c.counter hlive hopen
  obtain ⟨hafter', hanswer'⟩ :=
    Operation.callSite_of_open c.request c.arguments c.counter hlive hfresh
  rw [hsync, ← hafter'] at hafter
  rw [hsync, ← hanswer'] at hanswer
  have hcall : (w.settle c.site .fresh).callOf c =
      Operation.callSite .fresh c.request c.arguments c.counter := by
    unfold callOf
    rw [tokens_settle_self]
  refine ⟨?_, ?_, ?_⟩
  · rw [verdict_of_call w hc, verdict_of_call _ hc, hcall]
    exact congrArg (fun d => some (Dispatched.map (fun _ => ()) d)) hanswer
  · rw [after_of_call w hc, after_of_call _ hc, hcall]
    unfold callOf on settle
    dsimp only
    rw [hafter, hanswer, Function.update_idem]
  · rw [verdict_of_call w hc]
    refine ⟨_, rfl, ?_⟩
    unfold callOf
    rw [hanswer, hanswer', Operation.answer_concludeSite,
      ← Operation.scopedRun_notFound_iff w.session live c.request c.arguments]
    cases w.session.answer (Operation.scopedRun live c.request c.arguments) <;>
      simp [Operation.SiteRun.dispatched, Dispatched.map, Except.map]

/-! ## Broken until the next machine -/

/-- A site whose dispatch has failed, in a run from a new engine. As long as no action makes a
machine, its dispatches are skipped and change nothing but the count of skipped ones. The first one
that finds the engine open after an action has made a machine starts over as one on a new token: it
is not skipped, and fails for want of a function exactly when the lookup gives none. So a machine is
made between any two failures. -/
theorem broken_until_next_machine (start : World H) (hnew : start.New)
    (before between : List (Action H)) (a b : Action H) (c d : SiteCall)
    (ha : a.call? = some c) (hb : b.call? = some d) (hsite : d.site = c.site)
    (hfails : (start.run before).fails a = true)
    (hkept : ∀ x ∈ between, x.renews c.site = false) :
    let w := (start.run before).after a
    let v := w.run between
    (w.makesMachineIn between = false →
      v.verdict b = some ⟨v.tokens c.site, d.counter, .ok .skipped⟩ ∧ v.after b = v.countSkipped) ∧
    (∀ (first last : List (Action H)) (o : Action H) (live : Live),
      between = first ++ o :: last → (w.run first).makesMachine o = true →
      ((w.run first).after o).triesIn c.site last = false →
      v.session.engine.live = some live →
      v.verdict b = (v.settle c.site .fresh).verdict b ∧
      v.after b = (v.settle c.site .fresh).after b ∧
      ∃ e, v.verdict b = some e ∧ e.answer ≠ .ok .skipped ∧
        (e.answer = .error (.resolution d.request.procedure) ↔
          (Machine.run (lookupFunction d.request.procedure)
            (live.vm.among v.session.around.files)).1 = .ok none)) ∧
    (v.fails b = true → w.makesMachineIn between = true) := by
  intro w v
  have htimely : (start.run before).Timely := timely_run (timely_of_new hnew) before
  have hstuck : w.Stuck c.site := stuck_of_fails htimely ha hfails
  have hskipped : w.makesMachineIn between = false →
      v.verdict b = some ⟨v.tokens c.site, d.counter, .ok .skipped⟩ ∧
        v.after b = v.countSkipped := by
    intro hnone
    have hstill : v.Stuck d.site := hsite ▸ stuck_run hstuck hkept hnone
    rw [← hsite]
    exact call_of_stuck hstill hb
  refine ⟨hskipped, ?_, ?_⟩
  -- The machine that `o` makes leaves every token behind; `last` does not catch this one up.
  · intro first last o live hsplit hmade htries hlive
    have hdue : ((w.run first).after o).Due c.site :=
      due_after_of_makes (timely_run (timely_after htimely a) first) hmade c.site
    have hlast : ∀ x ∈ last, x.renews c.site = false := by
      intro x hx
      refine hkept x ?_
      rw [hsplit]
      exact List.mem_append_right first (List.mem_cons_of_mem o hx)
    have hv : v = ((w.run first).after o).run last := by
      rw [← run_cons, ← run_append, ← hsplit]
    have hstill : v.Due d.site := by
      rw [hv, hsite]
      exact due_run hdue hlast htries
    rw [← hsite]
    exact call_of_due hstill hb hlive
  · intro hagain
    cases hnone : w.makesMachineIn between with
    | true => rfl
    | false =>
      unfold fails at hagain
      rw [(hskipped hnone).1] at hagain
      cases hagain

/-- A dispatch of a name that is never a function. -/
def nameless : Action Document := .dispatch 0 (.new "" "trigger" "") 0

/-- A nameless dispatch fails, is skipped when it is made again, and starts over after a reset. -/
theorem broken_until_next_machine_nameless :
    let w := (bare.run [.openEngine]).after nameless
    w.verdict nameless = some ⟨w.tokens 0, 0, .ok .skipped⟩ ∧
    (w.run [.reset]).verdict nameless = ((w.run [.reset]).settle 0 .fresh).verdict nameless := by
  have hfails : (bare.run [.openEngine]).fails nameless = true := by
    decide +kernel
  have hmade : (((bare.run [.openEngine]).after nameless).run []).makesMachine .reset = true := by
    decide +kernel
  have hopen : (((bare.run [.openEngine]).after nameless).run
      [.reset]).session.engine.live.isSome = true := by
    decide +kernel
  have hnow := broken_until_next_machine bare new_bare [.openEngine] [] nameless nameless _ _
    rfl rfl rfl hfails (by simp)
  have hreset := broken_until_next_machine bare new_bare [.openEngine] [.reset] nameless nameless
    _ _ rfl rfl rfl hfails (by simp [Action.renews])
  -- From here on the world is a variable: the unifier would run the engine to compare worlds.
  generalize (bare.run [.openEngine]).after nameless = w at *
  obtain ⟨live, hlive⟩ := Option.isSome_iff_exists.mp hopen
  have hlater := hreset.2.1 [] [] .reset live (List.nil_append _).symm hmade (by rw [triesIn]) hlive
  exact ⟨(hnow.1 rfl).1, hlater.1⟩

end World

end EventScripts
