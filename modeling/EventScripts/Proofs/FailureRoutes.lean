import EventScripts.Proofs.CallAccounts
import EventScripts.Proofs.FailureRecords
import EventScripts.Proofs.Reports

/-!
# Routes of failures over a run

An engine reports as many failures as it has counted sources that did not load and calls that
failed. Each of them takes one route, whatever the presenter answers.

A host that has been told to take errors on its console goes on doing so: nothing an engine does in
a run turns that off. So from the moment a user asks for the console, no failure reaches the
presenter while the host stays attached. Without a host there is nothing to be told, and the answer
of the user is lost.
-/

set_option autoImplicit false

namespace EventScripts

open Script

/-! ## The console of a document -/

/-- The lines of the console in which a failure is shown. -/
def Document.failureLines (d : Document) (f : Failure) : List ConsoleLine :=
  [⟨errorFore, errorBack, d.pending ++ f.event⟩, ⟨errorFore, errorBack, f.raisedBy⟩,
    ⟨errorFore, errorBack, f.calledBy⟩, ⟨errorFore, errorBack, f.description⟩] ++
  (f.line.elim [] d.contextLines).map fun text => ⟨errorFore, errorBack, text⟩

/-- A failure on the console of a document is four lines and the lines around the blamed one. -/
theorem Document.console_writeConsole (d : Document) (f : Failure) :
    (Reporter.writeConsole f d).console = d.console ++ d.failureLines f := by
  have hempty : ∀ text : String, "" ++ text = text := fun _ => String.empty_append
  have htexts : ∀ h : Document, h = f.consoleTexts.foldl
      (fun h text => Host.note errorFore errorBack text h) d →
      h.console = d.console ++ [⟨errorFore, errorBack, d.pending ++ f.event⟩,
        ⟨errorFore, errorBack, f.raisedBy⟩, ⟨errorFore, errorBack, f.calledBy⟩,
        ⟨errorFore, errorBack, f.description⟩] ∧ h.source = d.source := by
    intro h hh
    rw [hh]
    simp only [Failure.consoleTexts, List.foldl_cons, List.foldl_nil, Host.note, Document.note,
      hempty, List.append_assoc, and_true]
    rfl
  obtain ⟨hconsole, hsource⟩ := htexts _ rfl
  unfold Reporter.writeConsole Document.failureLines
  generalize f.consoleTexts.foldl (fun h text => Host.note errorFore errorBack text h) d = h at *
  cases f.line with
  | none =>
    dsimp only [Option.elim]
    rw [List.map_nil, List.append_nil, hconsole]
  | some line =>
    have hlines : h.contextLines line = d.contextLines line := by
      unfold Document.contextLines
      rw [hsource]
    have hshown : (Host.showErrorLines line h : Document).console =
        h.console ++ (h.contextLines line).map fun text => ⟨errorFore, errorBack, text⟩ := rfl
    dsimp only [Option.elim]
    rw [hshown, hconsole, hlines, List.append_assoc]

/-! ## Hosts that stay with the console -/

/-- A host whose errors go to its console exactly if they have been sent there. -/
structure HonoursRouting (H : Type) [Host H] : Prop extends
    Aside (Host.errorsToOutput : H → Bool),
    Reporter.Unwritten (Host.errorsToOutput : H → Bool) where
  showErrorLines : ∀ (line : Nat) (h : H),
    Host.errorsToOutput (Host.showErrorLines line h) = Host.errorsToOutput h
  routeErrors : ∀ (toOutput : Bool) (h : H),
    Host.errorsToOutput (Host.routeErrors toOutput h) = toOutput

/-- A document sends errors to its console once it is told to, and until it is told otherwise. -/
theorem Document.honoursRouting : HonoursRouting Document where
  trace _ _ := rfl
  setOrigin _ _ := rfl
  setStyle _ _ := rfl
  addTime _ := rfl
  absorb e h := by cases e <;> rfl
  note _ _ _ _ := rfl
  tell _ _ _ _ := rfl
  showErrorLines _ _ := rfl
  routeErrors _ _ := rfl

variable {H γ : Type} [Host H] {view : H → γ}

/-- Whether a host is attached whose errors go to its console. -/
def Session.Consoled (s : Session H) : Prop :=
  ∃ h, s.around.host = some h ∧ Host.errorsToOutput h = true

/-- That is seen where failures are shown. -/
theorem Session.consoled_iff_scene (s : Session H) :
    s.Consoled ↔ (s.scene Host.errorsToOutput).host = some true := by
  unfold Session.Consoled Session.scene
  rw [Option.map_eq_some_iff]

namespace Report

variable (hroutes : HonoursRouting H) {r : Report H}

include hroutes

/-- The error log does not decide where errors go. -/
theorem errorsToOutput_logged (q : Reporter) (files : FileTree) (h : H) :
    Host.errorsToOutput (q.logged files h) = Host.errorsToOutput h := by
  unfold Reporter.logged
  split
  · exact hroutes.toUnwritten.tellUnopened q h
  · rfl

/-- A failure on the console leaves the host with the console. -/
theorem consoled_made_of_consoled (h : r.session.Consoled) : r.made.Consoled := by
  obtain ⟨d, hhost, hout⟩ := h
  obtain ⟨-, hmade⟩ := r.takesOneRoute.consoled d hhost hout
  refine ⟨_, hmade, ?_⟩
  rw [errorsToOutput_logged hroutes]
  unfold Reporter.writeConsole
  cases r.record.line with
  | none => exact (hroutes.toUnwritten.texts _ d).trans hout
  | some line =>
    rw [hroutes.showErrorLines]
    exact (hroutes.toUnwritten.texts _ d).trans hout

/-- A user who asks for the console gets it, if a host is attached. -/
theorem consoled_made_of_asks {d : H} (hhost : r.session.around.host = some d)
    (hout : Host.errorsToOutput d = false) (hasks : r.asks = true) : r.made.Consoled := by
  obtain ⟨-, hmade⟩ := r.takesOneRoute.presented d hhost hout
  refine ⟨_, hmade, ?_⟩
  rw [errorsToOutput_logged hroutes, if_pos hasks, hroutes.routeErrors]

end Report

namespace Reporting

variable {s t : Session H} {rs rs' : List (Report H)} {r : Report H}

/-- All failures are handed to one reporter. -/
theorem reporter_eq (h : Reporting view s rs t) (hr : r ∈ rs) :
    r.reporter = s.engine.reporter := by
  induction h with
  | quiet _ => cases hr
  | report hstill _ ih =>
    have hsame := congrArg Scene.reporter hstill.scene
    rcases List.mem_cons.mp hr with rfl | hr
    · exact hsame
    · exact (ih hr).trans hsame

/-- What is reported after a report is reported from there on. -/
theorem rest (h : Reporting view s (rs ++ r :: rs') t) : Reporting view r.made rs' t := by
  induction rs generalizing s with
  | nil =>
    cases h with
    | report _ hrest => exact hrest
  | cons _ _ ih =>
    cases h with
    | report _ hrest => exact ih hrest

/-- Once errors go to the console of the host, so do all that are reported. -/
theorem consoled (hroutes : HonoursRouting H) (h : Reporting Host.errorsToOutput s rs t)
    (hs : s.Consoled) : (∀ r ∈ rs, r.session.Consoled) ∧ t.Consoled := by
  induction h with
  | quiet hstill =>
    rw [Session.consoled_iff_scene, ← hstill.scene, ← Session.consoled_iff_scene] at hs
    refine ⟨fun r hr => ?_, hs⟩
    cases hr
  | report hstill _ ih =>
    rw [Session.consoled_iff_scene, ← hstill.scene, ← Session.consoled_iff_scene] at hs
    obtain ⟨hrest, hend⟩ := ih (Report.consoled_made_of_consoled hroutes hs)
    refine ⟨fun r hr => ?_, hend⟩
    rcases List.mem_cons.mp hr with rfl | hr
    · exact hs
    · exact hrest r hr

end Reporting

/-- Without a host a report gives the failure to the presenter, and what that answers makes no
difference. -/
theorem Report.around_made_unattached (r : Report H) {answer : List Dialog → Bool}
    (hhost : r.session.around.host = none) (hdialog : r.reporter.presenter = .dialog answer) :
    r.made.around = { r.session.around with
      reported := r.session.around.reported + 1
      dialogs := r.session.around.dialogs ++ [⟨r.record, false⟩]
      log := r.session.around.log ++
        [.debug ("[scripting] " ++ r.record.event ++ ": " ++ r.record.description)] } := by
  have hmade : r.made.around = r.reporter.keep r.record (r.reporter.route r.record
      (({ r.session.around with reported := r.session.around.reported + 1 } :
        Surroundings H).writeLog
          (.debug ("[scripting] " ++ r.record.event ++ ": " ++ r.record.description)))) := rfl
  rw [hmade]
  unfold Reporter.route Reporter.present
  rw [Surroundings.host_writeLog, hhost, hdialog]
  unfold Reporter.keep
  dsimp only
  rw [hhost]
  rfl

/-! ## The reports of a run -/

omit [Host H] in
/-- Every failure that is counted is reported. -/
theorem Episode.length_reports (es : List (Episode H)) :
    (es.filterMap Episode.report?).length =
      es.countP Episode.isUnloaded + es.countP Episode.isFailedCall := by
  induction es with
  | nil => rfl
  | cons e rest ih =>
    rw [List.countP_cons, List.countP_cons, List.filterMap_cons]
    rcases e with _ | ⟨r, _ | _ | _, u⟩ | ⟨_ | _ | _, u⟩ <;>
      simp [Episode.report?, Episode.isUnloaded, Episode.isFailedCall, ih] <;> omega

namespace World

/-- The reports that a run makes. -/
def reportsIn (w : World H) (actions : List (Action H)) : List (Report H) :=
  (w.along reports actions).flatten

/-- The reports of a run are those of its episodes. -/
theorem reportsIn_eq (w : World H) (actions : List (Action H)) :
    w.reportsIn actions = (w.episodesIn actions).filterMap Episode.report? := by
  unfold reportsIn episodesIn
  induction actions generalizing w with
  | nil => rfl
  | cons a rest ih =>
    rw [along, along, List.flatten_cons, List.flatten_cons, List.filterMap_append, ih]
    rfl

/-- The reports of a run along which the host stays attached are those that are made. -/
theorem reporting_run (hview : Aside view) (w : World H) {actions : List (Action H)}
    (hstays : ∀ a ∈ actions, a.movesHost = false) :
    Reporting view w.session (w.reportsIn actions) (w.run actions).session := by
  rw [reportsIn_eq]
  refine (Operation.chronicle_reports hview).run fun a ha hmoves => ?_
  rw [hstays a ha] at hmoves
  cases hmoves

/-- An action that reports neither attaches nor detaches a host. -/
theorem movesHost_of_report {w : World H} {a : Action H} {r : Report H} (hr : r ∈ w.reports a) :
    a.movesHost = false := by
  cases a with
  | attach d => cases hr
  | detach => cases hr
  | _ => rfl

/-- All failures of a run are handed to the reporter that the engine has. -/
theorem reporter_of_mem_reportsIn {w : World H} {actions : List (Action H)} {r : Report H}
    (hr : r ∈ w.reportsIn actions) : r.reporter = w.session.engine.reporter := by
  obtain ⟨rs, hrs, hr⟩ := List.mem_flatten.mp hr
  obtain ⟨first, a, last, -, rfl⟩ := mem_along_iff.mp hrs
  obtain ⟨generation, invoker, hstanding⟩ := standing_run w first
  have hsame : (w.run first).session.engine.reporter = w.session.engine.reporter :=
    congrArg Standing.reporter hstanding
  exact ((reporting_after aside_nothing _ (movesHost_of_report hr)).reporter_eq hr).trans hsame

/-- An action that answers with the text of a failure has reported it, once. -/
theorem reports_of_failure {w : World H} {a : Action H} {text : String}
    (h : w.failure? a = some text) : ∃ r, w.reports a = [r] ∧ r.record.description = text := by
  have hcall : ∀ c, a.call? = some c →
      (w.verdict a).bind (fun d => failureText? d.answer) = some text →
      ∃ r, w.reports a = [r] ∧ r.record.description = text := by
    intro c hc hbind
    obtain ⟨d, hd, htext⟩ := Option.bind_eq_some_iff.mp hbind
    cases he : d.answer with
    | ok outcome =>
      rw [he] at htext
      cases htext
    | error e =>
      obtain ⟨live, run, u, -, -, hes, rfl⟩ := w.call_of_error hc hd he
      unfold reports
      rw [hes]
      cases run with
      | notFound => cases htext
      | failed message =>
        cases htext
        exact ⟨_, rfl, rfl⟩
      | returned results => cases he
  cases a with
  | execute source label =>
    have htext : failureText? (w.session.answer (Operation.execute source label)) = some text := h
    show ∃ r, (w.session.executed source label).filterMap Episode.report? = [r] ∧
      r.record.description = text
    unfold Operation.execute at htext
    unfold Session.executed
    rw [Session.answer_bind, Session.answer_get, Session.after_get] at htext
    cases hlive : w.session.engine.live with
    | none =>
      rw [hlive] at htext
      cases htext
    | some live =>
      rw [hlive] at htext
      dsimp only at htext ⊢
      rw [Operation.runSource_eq, Session.answer_bind] at htext
      unfold Session.sourceEpisode
      generalize w.session.after (Operation.attempt live source label) = u at *
      cases hrun : w.session.answer (Operation.attempt live source label) with
      | notLoaded message =>
        rw [hrun] at htext
        cases htext
        exact ⟨_, rfl, rfl⟩
      | failed message =>
        rw [hrun] at htext
        cases htext
        exact ⟨_, rfl, rfl⟩
      | finished =>
        rw [hrun] at htext
        cases htext
  | dispatch site r counter => exact hcall _ rfl h
  | dispatchText site r text counter => exact hcall _ rfl h
  | _ => cases h

/-- As many failures are reported in a run of a new engine as have been counted. -/
theorem length_reportsIn {start : World H}
    (hnew : ∃ settings selection presenter date,
      start.session.engine = .new settings selection presenter date)
    (actions : List (Action H)) :
    (start.reportsIn actions).length =
      (start.run actions).session.engine.stats.compileErrors +
        (start.run actions).session.engine.stats.runtimeErrors := by
  obtain ⟨settings, selection, presenter, date, hengine⟩ := hnew
  rw [reportsIn_eq, Episode.length_reports, stats_run, hengine, Stats.foldl_record]
  simp only [Engine.new, Stats.zero, Nat.zero_add]

/-- After a user has asked for the console of the host that is attached, no failure reaches the
presenter while the host stays attached. -/
theorem consoled_after_asks (hroutes : HonoursRouting H) {w : World H} {actions : List (Action H)}
    (hstays : ∀ a ∈ actions, a.movesHost = false) {before later : List (Report H)} {r : Report H}
    (hreports : w.reportsIn actions = before ++ r :: later) {h : H}
    (hhost : r.session.around.host = some h) (hout : Host.errorsToOutput h = false)
    (hasks : r.asks = true) :
    (∀ q ∈ later, q.session.Consoled) ∧ (w.run actions).session.Consoled := by
  have hrun := reporting_run hroutes.toAside w hstays
  rw [hreports] at hrun
  exact hrun.rest.consoled hroutes (Report.consoled_made_of_asks hroutes hhost hout hasks)

/-- The failures of a run of a new engine, whatever its presenter answers. As many are reported as
are counted. Each takes one route, without a host independently of the answer. Along a stretch of
the run in which the host is not moved, nothing but the reports happens where failures are shown,
and once the user has asked for the console, all failures go there. The text that an action answers
with is that of the record. On the console of a document a failure is four lines and the lines
around the blamed one. -/
theorem failures_take_one_route (hroutes : HonoursRouting H) (start : World H)
    (hnew : ∃ settings selection presenter date,
      start.session.engine = .new settings selection presenter date)
    (actions : List (Action H)) :
    (start.reportsIn actions).length =
      (start.run actions).session.engine.stats.compileErrors +
        (start.run actions).session.engine.stats.runtimeErrors ∧
    (∀ r ∈ start.reportsIn actions,
      r.reporter = start.session.engine.reporter ∧ r.TakesOneRoute ∧
      ∀ answer, r.session.around.host = none → r.reporter.presenter = .dialog answer →
        r.made.around = { r.session.around with
          reported := r.session.around.reported + 1
          dialogs := r.session.around.dialogs ++ [⟨r.record, false⟩]
          log := r.session.around.log ++
            [.debug ("[scripting] " ++ r.record.event ++ ": " ++ r.record.description)] }) ∧
    (∀ first rest, actions = first ++ rest → (∀ a ∈ rest, a.movesHost = false) →
      (∀ {γ : Type} (view : H → γ), Aside view →
        Reporting view (start.run first).session ((start.run first).reportsIn rest)
          (start.run actions).session) ∧
      ∀ before r later h, (start.run first).reportsIn rest = before ++ r :: later →
        r.session.around.host = some h → Host.errorsToOutput h = false → r.asks = true →
        r.made.around.host =
          some (r.reporter.logged r.session.around.files (Host.routeErrors true h)) ∧
        (start.run actions).session.Consoled ∧
        ∀ q ∈ later, q.session.Consoled ∧
          Surroundings.Presented q.reporter.presenter [] q.session.around q.made.around) ∧
    (∀ first a last text, actions = first ++ a :: last →
      (start.run first).failure? a = some text →
      ∃ r, (start.run first).reports a = [r] ∧ r.record.description = text) ∧
    (∀ (d : Document) (f : Failure),
      (Reporter.writeConsole f d).console = d.console ++ d.failureLines f ∧
      Host.routeErrors true d = { d with errorsToOutput := true, modified := true }) := by
  refine ⟨length_reportsIn hnew actions, ?_, ?_, ?_, ?_⟩
  · intro r hr
    exact ⟨reporter_of_mem_reportsIn hr, r.takesOneRoute,
      fun _ hhost hdialog => r.around_made_unattached hhost hdialog⟩
  · intro first rest hsplit hstays
    rw [hsplit, run_append]
    refine ⟨fun view hview => reporting_run hview _ hstays, ?_⟩
    intro before r later h hreports hhost hout hasks
    obtain ⟨hlater, hend⟩ := consoled_after_asks hroutes hstays hreports hhost hout hasks
    refine ⟨?_, hend, fun q hq => ⟨hlater q hq, ?_⟩⟩
    · have hmade := (r.takesOneRoute.presented h hhost hout).2
      rw [if_pos hasks] at hmade
      exact hmade
    · obtain ⟨d, hd, hon⟩ := hlater q hq
      exact (q.takesOneRoute.consoled d hd hon).1
  · intro first a last text _ hfails
    exact reports_of_failure hfails
  · intro d f
    exact ⟨d.console_writeConsole f, rfl⟩

/-- The engine is opened, and a source that calls a missing function is run twice. -/
def switchingActions : List (Action Document) :=
  [.openEngine, .execute [.run (.call (.global (textBytes "g")) [])] "Script file",
    .execute [.run (.call (.global (textBytes "g")) [])] "Script file"]

/-- Of two failures the first is shown in a dialog, and the second on the console. -/
theorem failures_take_one_route_switching :
    ((watched true).run switchingActions).session.engine.stats.runtimeErrors = 2 ∧
    ((watched true).run switchingActions).session.around.dialogs.length = 1 ∧
    ((watched true).run switchingActions).session.Consoled ∧
    ∃ r q, (watched true).reportsIn switchingActions = [r, q] ∧ r.TakesOneRoute ∧
      q.session.Consoled ∧
      Surroundings.Presented q.reporter.presenter [] q.session.around q.made.around := by
  have hstats : ((watched true).run switchingActions).session.engine.stats = ⟨3, 2, 0, 0, 0⟩ := by
    decide +kernel
  have hdialogs : ((watched true).run switchingActions).session.around.dialogs.length = 1 := by
    decide +kernel
  have hfirst : ((watched true).reportsIn switchingActions).head?.map
      (fun r => (r.session.around.host.map Document.errorsToOutput, r.asks)) =
        some (some false, true) := by
    decide +kernel
  have hstays : ∀ a ∈ switchingActions, a.movesHost = false := by
    decide
  obtain ⟨hlength, hroutes, hstretch, -, -⟩ := failures_take_one_route Document.honoursRouting
    (watched true) ⟨_, _, _, _, rfl⟩ switchingActions
  have hlater := (hstretch [] switchingActions (List.nil_append _).symm hstays).2
  have hempty : (watched true).run [] = watched true := rfl
  rw [hempty] at hlater
  rw [hstats] at hlength ⊢
  -- From here on the run is a variable: the unifier would run the engine to compare reports.
  generalize (watched true).reportsIn switchingActions = rs at *
  generalize (watched true).run switchingActions = w at *
  obtain ⟨r, q, rfl⟩ := List.length_eq_two.mp hlength
  obtain ⟨hhost, hasks⟩ := Prod.mk.inj (Option.some.inj hfirst)
  obtain ⟨h, hattached, hout⟩ := Option.map_eq_some_iff.mp hhost
  obtain ⟨-, hend, hconsoled⟩ := hlater [] r [q] h rfl hattached hout hasks
  obtain ⟨hq, hnothing⟩ := hconsoled q (List.mem_singleton_self q)
  exact ⟨rfl, hdialogs, hend, r, q, rfl, (hroutes r List.mem_cons_self).2.1, hq, hnothing⟩

end World

end EventScripts
