import EventScripts.Proofs.PairedSessions
import EventScripts.Proofs.Reports

/-!
# Scripts run the same on every host

A machine never sees the host: what its scripts do to it is put down and happens after the run. What
they see of the world outside are files, and only if they ask for them. So take two sessions that
count the same for scripts and whose files agree but for the error logs, on hosts of any two types
or on none, with any presenter and any path of the error log, traced or not. They answer every
dispatch and every source the same, with the same error and the same message, and count the same for
scripts afterwards, as long as the scripts leave the error logs alone. Along a run hosts may be
attached and detached without any of this changing.

A script that looks at the error log can tell whether failures were kept in it. Openings are another
matter, because a host registers its routines in every new machine.
-/

set_option autoImplicit false

namespace EventScripts

open Script

namespace Session

variable {H H' : Type} {logs : List String}

/-- Two sessions that count the same for scripts, with files that agree but for those at some paths,
among which are their error logs. -/
structure Agrees (logs : List String) (s : Session H) (t : Session H') : Prop where
  inside : s.inside = t.inside
  files : s.around.files.AgreeBut logs t.around.files
  left : s.logPath ∈ logs
  right : t.logPath ∈ logs

/-- What two sessions have to agree in: what counts for scripts, the files and the path of the error
log. -/
def shared (s : Session H) : Inside × FileTree × String := (s.inside, s.around.files, s.logPath)

/-- What is not shared makes no difference. -/
theorem Agrees.of_shared {s u : Session H} {t v : Session H'} (h : s.Agrees logs t)
    (hu : u.shared = s.shared) (hv : v.shared = t.shared) : u.Agrees logs v := by
  simp only [shared, Prod.mk.injEq] at hu hv
  obtain ⟨huInside, huFiles, huLog⟩ := hu
  obtain ⟨hvInside, hvFiles, hvLog⟩ := hv
  refine ⟨?_, ?_, ?_, ?_⟩
  · rw [huInside, hvInside, h.inside]
  · rw [huFiles, hvFiles]
    exact h.files
  · rw [huLog]
    exact h.left
  · rw [hvLog]
    exact h.right

variable {α : Type}

/-- An operation answers the same in two sessions, and leaves them the same for scripts and for all
files but the error logs, if its requests leave these alone. -/
def SameOutcome (s : Session H) (t : Session H') (op : OperationOn H α) (op' : OperationOn H' α) :
    Prop :=
  (∀ q ∈ s.requests op, q.LeavesAlone [s.logPath, t.logPath]) →
    s.answer op = t.answer op' ∧ (s.after op).inside = (t.after op').inside ∧
    (s.after op).around.files.AgreeBut [s.logPath, t.logPath] (t.after op').around.files

end Session

namespace Operation

variable {H H' : Type} [Host H] [Host H']

/-- A trace shares nothing with scripts. -/
theorem keeps_shared_traceDispatch (r : Request) :
    Keeps Session.shared (traceDispatch r : OperationOn H Unit) :=
  keeps_traceDispatch (fun _ _ => rfl) r

/-- The origin of a run shares nothing with scripts. -/
theorem keeps_shared_setOrigin (o : Origin) :
    Keeps Session.shared (onAround (·.setOrigin o) : OperationOn H Unit) :=
  keeps_setOrigin (fun _ _ => rfl) o

/-- A report is seen at most in the error log. -/
theorem agrees_report {logs : List String} {s : Session H} {t : Session H'}
    (h : s.Agrees logs t) (event : String) (context : Option CallContext) (text : String) :
    (s.after (report event context text)).Agrees logs (t.after (report event context text)) := by
  have hs := (s.engine.reporter.agreeBut_report event context text s.around).mono
    (List.forall_mem_singleton.mpr h.left)
  have ht := (t.engine.reporter.agreeBut_report event context text t.around).mono
    (List.forall_mem_singleton.mpr h.right)
  exact ⟨h.inside, (hs.symm.trans h.files).trans ht, h.left, h.right⟩

/-- To count the same for scripts and to have the same files is all it takes to go through the same
runs. -/
theorem pairs_agrees (logs : List String) :
    Pairs logs (Session.Agrees logs : Session H → Session H' → Prop) where
  total s hs :=
    -- Nobody needs to be attached.
    ⟨⟨s.engine, s.index, { Surroundings.fresh none with files := s.around.files }⟩, rfl, .refl _ _,
      hs, hs⟩
  isPrivate h := h.left
  inside h := h.inside
  files h := h.files
  refit h live stats generation index := by
    have hsandbox := congrArg Inside.sandbox h.inside
    have hnative := congrArg Inside.allowNative h.inside
    have hselection := congrArg Inside.selection h.inside
    simp only [Session.inside] at hsandbox hnative hselection
    refine ⟨?_, h.files, h.left, h.right⟩
    simp only [Session.inside, Session.refit, hsandbox, hnative, hselection]
  undergo h _ _ _ _ hfiles := ⟨h.inside, hfiles, h.left, h.right⟩
  log h _ := h.of_shared rfl rfl
  trace h r := h.of_shared (keeps_shared_traceDispatch r _) (keeps_shared_traceDispatch r _)
  origin h o := h.of_shared (keeps_shared_setOrigin o _) (keeps_shared_setOrigin o _)
  time h := h.of_shared rfl rfl
  report h event context text := agrees_report h event context text
  enter h := h.of_shared rfl rfl
  leave _ h := h.of_shared rfl rfl

omit [Host H] [Host H'] in
/-- What is alike in agreeing sessions has the same outcome in them. -/
theorem sameOutcome_of_alike {α : Type} {s : Session H} {t : Session H'} {op : OperationOn H α}
    {op' : OperationOn H' α} (hst : s.Agrees [s.logPath, t.logPath] t)
    (hop : Alike [s.logPath, t.logPath] (Session.Agrees [s.logPath, t.logPath]) op op') :
    s.SameOutcome t op op' := by
  intro hclear
  obtain ⟨hanswer, hafter⟩ := (hop s t hst).elim hclear
  exact ⟨hanswer, hafter.inside, hafter.files⟩

/-- Dispatches and sources have the same outcome in sessions that count the same for scripts and
whose files agree but for their error logs: the same token, the same invocation counter, the same
result or error with the same message, the same machine and the same counts. The sessions may differ
in everything else: one may have a host of another type or none, another presenter, another error
log, and its dispatches may be traced or not. Scripts must only leave the error logs alone. -/
theorem dispatching_ignores_outside {s : Session H} {t : Session H'} (hinside : s.inside = t.inside)
    (hfiles : s.around.files.AgreeBut [s.logPath, t.logPath] t.around.files) :
    (∀ token r counter,
      s.SameOutcome t (dispatch token r counter) (dispatch token r counter)) ∧
    (∀ token r text counter,
      s.SameOutcome t (dispatchText token r text counter) (dispatchText token r text counter)) ∧
    (∀ source label, s.SameOutcome t (execute source label) (execute source label)) := by
  have hst : s.Agrees [s.logPath, t.logPath] t := ⟨hinside, hfiles, by simp, by simp⟩
  have hpairs : Pairs _ (Session.Agrees [s.logPath, t.logPath] : Session H → Session H' → Prop) :=
    pairs_agrees _
  exact ⟨fun token r counter => sameOutcome_of_alike hst (hpairs.dispatch token r counter),
    fun token r text counter => sameOutcome_of_alike hst (hpairs.dispatchText token r text counter),
    fun source label => sameOutcome_of_alike hst (hpairs.execute source label)⟩

/-- A session in whose error log a failure was kept. -/
def kept (s : Session) : Session :=
  { s with around := { s.around with files := s.around.files.written s.logPath "a failure" } }

/-- A failure that was kept does not count for scripts, and concerns no file but the error log. -/
theorem agrees_kept (s : Session) :
    s.inside = (kept s).inside ∧
      s.around.files.AgreeBut [s.logPath, (kept s).logPath] (kept s).around.files :=
  ⟨rfl, (FileTree.agreeBut_written _ _ _).mono fun log hlog => List.mem_cons_of_mem _ hlog⟩

/-- The engine for a document, and what it counts for scripts without the document, with another
error log in which a failure was kept, shown nowhere but in the log, and untraced. -/
def undocumented (s : Session) : Session :=
  kept { s with
    engine := { s.engine with
      settings := { s.engine.settings with
        logDirectory := "", logFile := "errors", traceDispatch := false }
      reporter := ⟨.log, "errors", "today"⟩ }
    around := { Surroundings.fresh none with files := s.around.files } }

/-- A function that fails gives the same error without the document that was shown it. -/
theorem dispatching_ignores_outside_undocumented :
    let s := ((World.watched false).run World.watchedActions).session
    let op : Operation (Dispatched (Option Scalar)) :=
      dispatch .fresh (.new "f" "trigger" "a line came") 0
    s.inside = (undocumented s).inside ∧
      s.around.files.AgreeBut [s.logPath, (undocumented s).logPath]
        (undocumented s).around.files ∧
      s.requests op = [] ∧ (s.answer op).answer.isOk = false ∧
      s.answer op = (undocumented s).answer op ∧
      (s.after op).inside = ((undocumented s).after op).inside := by
  have hrequests : ((World.watched false).run World.watchedActions).session.requests
      (dispatch .fresh (.new "f" "trigger" "a line came") 0) = [] := by
    decide +kernel
  have hfails : (((World.watched false).run World.watchedActions).session.answer
      (dispatch .fresh (.new "f" "trigger" "a line came") 0)).answer.isOk = false := by
    decide +kernel
  dsimp only
  generalize ((World.watched false).run World.watchedActions).session = s at *
  have hinside : s.inside = (undocumented s).inside := rfl
  have hfiles : s.around.files.AgreeBut [s.logPath, (undocumented s).logPath]
      (undocumented s).around.files :=
    (FileTree.agreeBut_written _ _ _).mono fun log hlog => List.mem_cons_of_mem _ hlog
  obtain ⟨hdispatch, -, -⟩ := dispatching_ignores_outside hinside hfiles
  obtain ⟨hanswer, hafter, -⟩ := hdispatch .fresh (.new "f" "trigger" "a line came") 0
    (by rw [hrequests]; exact List.forall_mem_nil _)
  exact ⟨hinside, hfiles, hrequests, hfails, hanswer, hafter⟩

/-- An engine whose failures are shown in dialogs and kept in no error log, although it has a path
for one. A function has been defined that opens the error log and closes it again. -/
def curious : Session :=
  let world : World :=
    ⟨.new (.new ⟨none, "", "errors.txt", true, false⟩ ⟨Library.all.map (·, .nothing), []⟩
      (.dialog fun _ => false) "") (some (.new "world")), fun _ => .fresh⟩
  let opened : Expr :=
    .call (.field (.global (textBytes "io")) (.string (textBytes "open")))
      [.string (textBytes "errors.txt")]
  (world.run [.openEngine, .execute
    [.setGlobal (textBytes "f") (.function [.run (.method opened (textBytes "close") [])])]
    "Script file"]).session

/-- A function that opens the error log fails, unless a failure was kept in it before. -/
theorem dispatching_sees_error_log :
    let op : Operation (Dispatched (Option Scalar)) :=
      dispatch .fresh (.new "f" "trigger" "a line came") 0
    curious.inside = (kept curious).inside ∧
      curious.around.files.AgreeBut [curious.logPath, (kept curious).logPath]
        (kept curious).around.files ∧
      (curious.answer op).answer.isOk = false ∧ ((kept curious).answer op).answer.isOk = true := by
  obtain ⟨hinside, hfiles⟩ := agrees_kept curious
  refine ⟨hinside, hfiles, ?_, ?_⟩
  · decide +kernel
  · decide +kernel

end Operation

/-! ## Runs -/

namespace World

variable {H H' : Type} [Host H] [Host H']

/-- A run answers the same and leaves what counts for scripts the same on other hosts, if the engine
is not opened in it and its requests leave the error logs alone. The hosts that are attached and
detached in between make no difference. -/
theorem runs_ignore_hosts {w : World H} {v : World H'} {logs : List String}
    (hsession : w.session.Agrees logs v.session) (htokens : w.tokens = v.tokens)
    {actions : List (Action H)} (hopens : ∀ a ∈ actions, a.opens = false) :
    w.session.Sparing logs (w.run actions).session
      (w.replies actions = v.replies (actions.filterMap Action.hostless?) ∧
        Paired (Session.Agrees logs) (w.run actions)
          (v.run (actions.filterMap Action.hostless?))) := by
  have hpairs : Operation.Pairs logs (Session.Agrees logs : Session H → Session H' → Prop) :=
    Operation.pairs_agrees logs
  induction actions generalizing w v with
  | nil => exact .of_asks_nil (.of_eq rfl rfl) ⟨rfl, hsession, htokens⟩
  | cons a rest ih =>
    have hrest : ∀ b ∈ rest, b.opens = false := fun b hb => hopens b (List.mem_cons_of_mem a hb)
    rw [replies_cons, run_cons]
    cases hab : (a.hostless? : Option (Action H')) with
    | none =>
      -- A host is moved, and the other run does nothing in the meantime.
      have hquiet : w.reply? a = none ∧ (w.after a).session.shared = w.session.shared ∧
          (w.after a).tokens = w.tokens ∧ w.session.Asks [] (w.after a).session := by
        cases a with
        | attach d => exact ⟨rfl, rfl, rfl, .of_eq rfl rfl⟩
        | detach => exact ⟨rfl, rfl, rfl, .of_eq rfl rfl⟩
        | _ => cases hab
      obtain ⟨hreply, hshared, hkept, hasks⟩ := hquiet
      rw [List.filterMap_cons_none hab, hreply]
      exact .lead hasks
        (ih (hsession.of_shared hshared rfl) (hkept.trans htokens) hrest)
    | some b =>
      have hclosed : a.opens = true →
          Operation.RegisterAlike (Session.Agrees logs : Session H → Session H' → Prop) := by
        intro hopen
        rw [hopens a List.mem_cons_self] at hopen
        cases hopen
      have hfirst := (Paired.after hpairs ⟨hsession, htokens⟩ hab hclosed).imp
        fun ⟨hreply, _, hafter⟩ => And.intro hreply hafter
      rw [List.filterMap_cons_some hab, replies_cons, run_cons]
      refine (Paired.trans hpairs hsession.left hfirst
        fun v hv => ih hv.session hv.tokens hrest).imp ?_
      rintro ⟨hreply, hreplies, hend⟩
      rw [hreply, hreplies]
      exact ⟨rfl, hend⟩

end World

end EventScripts
