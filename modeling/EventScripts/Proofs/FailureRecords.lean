import EventScripts.Proofs.Episodes
import EventScripts.Proofs.HostScope

/-!
# What a host is shown of a failure

A source or a dispatch that fails ends with a report of the text that it answers with. The record of
the report has the line which that text blames. If the host wants errors on its console it is told
to show this line, once, and no other; before the report it is told to show none.

This holds of every host for which `ShowsLines` describes what it was told to show: scripts and
everything else an engine does change neither that nor where errors go.
-/

set_option autoImplicit false

namespace EventScripts

open Script

variable {H : Type} [Host H]

/-- Where errors go, and the lines that a host was told to show. -/
def console (shown : H → List Nat) (h : H) : Bool × List Nat := (Host.errorsToOutput h, shown h)

/-- A view of the lines that a host was told to show, in order. -/
structure ShowsLines (shown : H → List Nat) : Prop extends Reporter.Unwritten shown where
  showErrorLines : ∀ (line : Nat) (h : H), shown (Host.showErrorLines line h) = shown h ++ [line]
  routeErrors : ∀ (toOutput : Bool) (h : H), shown (Host.routeErrors toOutput h) = shown h
  trace : ∀ (text : String) (h : H), console shown (Host.trace text h) = console shown h
  setOrigin : ∀ (o : Origin) (h : H), console shown (Host.setOrigin o h) = console shown h
  setStyle : ∀ (t : NoteStyle) (h : H), console shown (Host.setStyle t h) = console shown h
  absorb : ∀ (e : Effect) (h : H), console shown (Host.absorb e h) = console shown h

/-- A document has the lines highlighted that it is told to show. -/
theorem Document.showsLines : ShowsLines Document.highlighted where
  note _ _ _ _ := rfl
  tell _ _ _ _ := rfl
  showErrorLines _ _ := rfl
  routeErrors _ _ := rfl
  trace _ _ := rfl
  setOrigin _ _ := rfl
  setStyle _ _ := rfl
  absorb e h := by cases e <;> rfl

namespace ShowsLines

variable {shown : H → List Nat} (hshown : ShowsLines shown)

include hshown

/-! ## Reports -/

/-- On the console a failure shows the line that it blames. -/
theorem writeConsole (f : Failure) (h : H) :
    shown (Reporter.writeConsole f h) = shown h ++ f.line.toList := by
  unfold Reporter.writeConsole
  cases f.line with
  | none =>
    rw [Option.toList_none, List.append_nil]
    exact hshown.texts f.consoleTexts h
  | some line => rw [hshown.showErrorLines, hshown.texts, Option.toList_some]

/-- A report shows the line that the text blames to a host that wants errors on its console. -/
theorem report (r : Reporter) (event : String) (context : Option CallContext) (text : String)
    (a : Surroundings H) :
    (r.report event context text a).2.host.map shown =
      a.host.map fun h =>
        shown h ++ if Host.errorsToOutput h then (errorLine? text).toList else [] := by
  have hroute : ∀ (f : Failure) (a : Surroundings H), (r.route f a).host.map shown =
      a.host.map fun h => shown h ++ if Host.errorsToOutput h then f.line.toList else [] := by
    intro f a
    unfold Reporter.route
    cases hhost : a.host with
    | none =>
      rw [Reporter.host_present, hhost]
      rfl
    | some h =>
      dsimp only
      by_cases hout : Host.errorsToOutput h = true
      · rw [if_pos hout, Surroundings.host_onHost, hhost]
        simp [hshown.writeConsole, hout]
      · rw [if_neg hout]
        split
        · simp [hhost, hout, hshown.routeErrors]
        · simp [hhost, hout]
  unfold Reporter.report
  dsimp only
  rw [hshown.keep, hroute, Surroundings.host_writeLog]
  rfl

end ShowsLines

namespace Operation

/-- The console of the attached host, as far as it concerns lines. -/
abbrev consoleOf (shown : H → List Nat) (s : Session H) : Option (Bool × List Nat) :=
  s.around.host.map (console shown)

variable {α : Type} {shown : H → List Nat}

/-- What does not concern the console of a host does not concern that of a session. -/
theorem keeps_console_onHost {f : H → H} (hf : ∀ h, console shown (f h) = console shown h) :
    Keeps (consoleOf shown) (onAround (·.onHost f) : OperationOn H Unit) :=
  keeps_onAround fun s => s.around.map_host_onHost hf

variable (hshown : ShowsLines shown)

include hshown

/-! ## Nothing is shown before the report -/

/-- Nothing that is done in a run concerns the console. -/
theorem inner_console : Inner fun s t : Session H => consoleOf shown t = consoleOf shown s :=
  inner_of_view (fun _ _ => rfl) (fun _ _ _ _ _ => rfl)
    (fun e => keeps_console_onHost (hshown.absorb e))
    (fun t => keeps_console_onHost (hshown.setStyle t))
    fun o => keeps_console_onHost (hshown.setOrigin o)

/-- Neither the trace of a dispatch nor its run in the scope shows a line. -/
theorem keeps_console_scopedRun (live : Live) (r : Request) (arguments : Machine (List Value)) :
    Keeps (consoleOf shown) (scopedRun live r arguments : OperationOn H SiteRun) := by
  have hinner := inner_console hshown
  have htrace : Keeps (consoleOf shown) (traceDispatch r : OperationOn H Unit) :=
    keeps_traceDispatch (fun text => keeps_console_onHost (hshown.trace text)) r
  refine keeps_bind htrace fun _ => hinner.inScope ?_
  exact hinner.runSite (fun _ _ => rfl) live r arguments

end Operation

/-! ## Failing operations -/

/-- The text of a failure that an operation answers with. -/
def failureText? {α : Type} : Except ScriptError α → Option String
  | .error (.compile _ text) => some text
  | .error (.runtime _ text) => some text
  | _ => none

namespace Operation

variable {shown : H → List Nat} {s : Session H} {text : String}

/-- What is done between two sessions ends with the report of a text, and shows no line before
that. -/
def EndsReporting (shown : H → List Nat) (text : String) (s s' : Session H) : Prop :=
  ∃ (t : Session H) (event : String) (context : Option CallContext),
    s' = t.after (report event context text) ∧ consoleOf shown t = consoleOf shown s

/-- A dispatch that fails ends with a report. -/
theorem endsReporting_callSite (hshown : ShowsLines shown) {token : Token} {r : Request}
    {arguments : Machine (List Value)} {counter : Nat}
    (h : failureText? (s.answer (callSite token r arguments counter)).answer = some text) :
    EndsReporting shown text s (s.after (callSite token r arguments counter)) := by
  unfold EndsReporting
  cases hlive : s.engine.live with
  | none =>
    rw [(callSite_of_closed _ _ _ _ hlive).2] at h
    cases h
  | some live =>
    cases hb : (token.sync s.engine.generation).isBroken with
    | true =>
      rw [(callSite_of_broken _ _ _ hlive hb).2] at h
      cases h
    | false =>
      obtain ⟨hafter, hanswer⟩ := callSite_of_open r arguments counter hlive hb
      rw [hanswer, answer_concludeSite] at h
      rw [hafter]
      -- Of the three ends of a run only a failed call has a text.
      cases hrun : s.answer (scopedRun live r arguments) with
      | failed message =>
        rw [hrun] at h
        cases h
        exact ⟨_, _, _, rfl, keeps_console_scopedRun hshown live r arguments s⟩
      | _ =>
        rw [hrun] at h
        cases h

/-- A source that does not load, or whose run fails, ends with a report. -/
theorem endsReporting_execute (hshown : ShowsLines shown) {source : List Step} {label : String}
    (h : failureText? (s.answer (execute source label)) = some text) :
    EndsReporting shown text s (s.after (execute source label)) := by
  unfold EndsReporting
  cases hlive : s.engine.live with
  | none =>
    unfold execute at h
    rw [Session.answer_bind, Session.answer_get, Session.after_get, hlive] at h
    cases h
  | some live =>
    obtain ⟨hanswer, hafter⟩ := Session.execute_of_open hlive source label
    rw [hanswer, runSource_eq, Session.answer_bind] at h
    rw [hafter, runSource_eq, Session.after_bind]
    have hattempt : consoleOf shown (s.after (attempt live source label)) = consoleOf shown s :=
      (inner_console hshown).attempt (fun _ _ => rfl) live source label s
    generalize s.after (attempt live source label) = t at *
    -- Of the three ends of a run only a source that finished has no text.
    cases hrun : s.answer (attempt live source label) with
    | notLoaded message =>
      rw [hrun] at h
      cases h
      exact ⟨_, _, _, rfl, hattempt⟩
    | failed message =>
      rw [hrun] at h
      cases h
      exact ⟨_, _, _, rfl, hattempt⟩
    | finished =>
      rw [hrun] at h
      cases h

end Operation

/-! ## Failing actions -/

namespace World

/-- The text of the failure that an action answers with. -/
def failure? (w : World H) : Action H → Option String
  | .execute source label => failureText? (w.session.answer (Operation.execute source label))
  | a => (w.verdict a).bind fun d => failureText? d.answer

/-- A dispatch of either kind fails as the call of its site does. -/
theorem failure?_of_call {w : World H} {a : Action H} {c : SiteCall} (h : a.call? = some c) :
    w.failure? a = failureText? (w.session.answer (w.callOf c)).answer := by
  have hverdict : w.failure? a = (w.verdict a).bind fun d => failureText? d.answer := by
    cases a with
    | execute source label => cases h
    | _ => rfl
  have hmap : ∀ d : Dispatched (List Value),
      failureText? (d.map fun _ => ()).answer = failureText? d.answer := by
    intro d
    obtain ⟨token, count, e | o⟩ := d
    · cases e <;> rfl
    · rfl
  rw [hverdict, verdict_of_call w h, Option.bind_some, hmap]

/-- An action ends with a report of the text that it answers with: the record of the report has this
line, and it is what the host is told to show if it wants errors on its console. -/
structure Records (w : World H) (shown : H → List Nat) (a : Action H) (line : Option Nat) :
    Prop where
  record : ∃ (t : Session H) (event : String) (context : Option CallContext) (text : String),
    w.failure? a = some text ∧
      (w.after a).session = t.after (Operation.report event context text) ∧
      (t.engine.reporter.report event context text t.around).1.line = line
  shown : (w.after a).session.around.host.map shown =
    w.session.around.host.map fun h =>
      shown h ++ if Host.errorsToOutput h then line.toList else []

variable {w : World H} {shown : H → List Nat}

/-- The failure of an action is recorded with the line that its text blames. -/
theorem records_of_failure (hshown : ShowsLines shown) {a : Action H} {text : String}
    (h : w.failure? a = some text) : w.Records shown a (errorLine? text) := by
  have hends : Operation.EndsReporting shown text w.session (w.after a).session := by
    have hcall : ∀ c, a.call? = some c →
        Operation.EndsReporting shown text w.session (w.after a).session := by
      intro c hc
      rw [failure?_of_call hc] at h
      rw [after_of_call w hc]
      exact Operation.endsReporting_callSite hshown h
    cases a with
    | execute source label => exact Operation.endsReporting_execute hshown h
    | dispatch site r counter => exact hcall _ rfl
    | dispatchText site r text counter => exact hcall _ rfl
    | _ => cases h
  obtain ⟨t, event, context, hafter, hconsole⟩ := hends
  refine ⟨⟨t, event, context, text, h, hafter, rfl⟩, ?_⟩
  have hreported : (w.after a).session.around.host.map shown =
      t.around.host.map fun h =>
        shown h ++ if Host.errorsToOutput h then (errorLine? text).toList else [] := by
    rw [hafter]
    exact hshown.report t.engine.reporter event context text t.around
  have hsame := congrArg (Option.map fun p : Bool × List Nat =>
    p.2 ++ if p.1 then (errorLine? text).toList else []) hconsole
  unfold Operation.consoleOf at hsame
  rw [Option.map_map, Option.map_map] at hsame
  exact hreported.trans hsame

end World

end EventScripts
