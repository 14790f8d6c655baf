import EventScripts.Proofs.Episodes
import EventScripts.Proofs.TokenSafety

/-!
# Reports of failures

A failure is handed to the reporter of an engine together with the calling context of its request,
none if it is the failure of a source. The reporter shows it in one place: on the console, if the
attached host wants errors there, and else through the presenter.

Between the reports of a run nothing happens that could be taken for one. An engine leaves the
dialogs alone, and does nothing to the host but tracing, changing its origin, its style and its
script time, and what scripts ask for. The files are then those that the requests of scripts left.

A failing dispatch is reported if its name is that of a function. A name that is no function breaks
the token and is an error, but all that is told of it is a line of the log.
-/

set_option autoImplicit false

namespace EventScripts

open Script

/-! ## Where a failure is shown -/

/-- Whether the user asks for the console, given all dialogs that were shown. -/
def Presenter.asks : Presenter → List Dialog → Bool
  | .log, _ => false
  | .dialog answer, dialogs => answer dialogs

namespace Surroundings

variable {H : Type}

/-- The lines of the log about failures. -/
def errorLines (a : Surroundings H) : List LogLine := a.log.filter (·.severity = .error)

/-- What a presenter was given between two surroundings, in order. -/
def Presented (p : Presenter) (given : List Dialog) (a b : Surroundings H) : Prop :=
  match p with
  | .log =>
    b.dialogs = a.dialogs ∧ b.errorLines = a.errorLines ++ given.map fun d => d.failure.logLine
  | .dialog _ => b.dialogs = a.dialogs ++ given ∧ b.errorLines = a.errorLines

/-- What a presenter was given depends on the dialogs and the lines about failures. -/
theorem Presented.congr {p : Presenter} {given : List Dialog} {a a' b b' : Surroundings H}
    (h : Presented p given a b) (ha : a.dialogs = a'.dialogs ∧ a.errorLines = a'.errorLines)
    (hb : b'.dialogs = b.dialogs ∧ b'.errorLines = b.errorLines) :
    Presented p given a' b' := by
  unfold Presented at h ⊢
  rw [hb.1, hb.2, ← ha.1, ← ha.2]
  exact h

/-- A presenter was given nothing if neither dialogs nor lines about failures were added. -/
theorem presented_nil (p : Presenter) {a b : Surroundings H} (hdialogs : b.dialogs = a.dialogs)
    (hlines : b.errorLines = a.errorLines) : Presented p [] a b := by
  cases p with
  | log => exact ⟨hdialogs, hlines.trans (List.append_nil _).symm⟩
  | dialog answer => exact ⟨hdialogs.trans (List.append_nil _).symm, hlines⟩

/-- A line of the log that is about no failure. -/
theorem errorLines_writeLog {a : Surroundings H} {line : LogLine} (h : line.severity ≠ .error) :
    (a.writeLog line).errorLines = a.errorLines := by
  simp [errorLines, writeLog, h]

end Surroundings

namespace Reporter

variable {H : Type}

open Surroundings

/-- The presenter is given the failure, once. -/
theorem presented_present (r : Reporter) (f : Failure) (haveHost : Bool) (a : Surroundings H) :
    Presented r.presenter [⟨f, haveHost⟩] a (r.present f haveHost a).1 ∧
    (r.present f haveHost a).2 = r.presenter.asks (a.dialogs ++ [⟨f, haveHost⟩]) := by
  unfold present Presented
  cases r.presenter with
  | log => exact ⟨⟨rfl, List.filter_append _ _⟩, rfl⟩
  | dialog answer => exact ⟨⟨rfl, rfl⟩, rfl⟩

variable [Host H]

/-- Without a host a failure is given to the presenter. -/
theorem route_unattached (r : Reporter) (f : Failure) {a : Surroundings H} (h : a.host = none) :
    Presented r.presenter [⟨f, false⟩] a (r.route f a) ∧ (r.route f a).host = none := by
  unfold route
  rw [h]
  exact ⟨(r.presented_present f false a).1, (r.host_present f false a).trans h⟩

/-- A host that does not want errors on its console learns whether the user asks for that. -/
theorem route_presented (r : Reporter) (f : Failure) {a : Surroundings H} {h : H}
    (hhost : a.host = some h) (hout : Host.errorsToOutput h = false) :
    Presented r.presenter [⟨f, true⟩] a (r.route f a) ∧
    (r.route f a).host = some
      (if r.presenter.asks (a.dialogs ++ [⟨f, true⟩]) then Host.routeErrors true h else h) := by
  obtain ⟨hgiven, hasks⟩ := r.presented_present f true a
  have hstill : (r.present f true a).1.host = some h := (r.host_present f true a).trans hhost
  unfold route
  rw [hhost]
  dsimp only
  rw [hout, if_neg Bool.false_ne_true, hasks]
  split
  · refine ⟨hgiven.congr ⟨rfl, rfl⟩ ⟨rfl, rfl⟩, ?_⟩
    rw [host_onHost, hstill]
    rfl
  · exact ⟨hgiven, hstill⟩

/-- A host that wants errors on its console gets the failure there, and the presenter nothing. -/
theorem route_consoled (r : Reporter) (f : Failure) {a : Surroundings H} {h : H}
    (hhost : a.host = some h) (hout : Host.errorsToOutput h = true) :
    Presented r.presenter [] a (r.route f a) ∧
    (r.route f a).host = some (writeConsole f h) := by
  unfold route
  rw [hhost]
  dsimp only
  rw [if_pos hout]
  refine ⟨presented_nil r.presenter rfl rfl, ?_⟩
  rw [host_onHost, hhost]
  rfl

/-- Showing a failure touches no file, and asks for no note. -/
theorem route_frame (r : Reporter) (f : Failure) (a : Surroundings H) :
    (r.route f a).files = a.files ∧ (r.route f a).notes = a.notes := by
  have hpresent : ∀ haveHost, (r.present f haveHost a).1.files = a.files ∧
      (r.present f haveHost a).1.notes = a.notes := by
    intro haveHost
    unfold present
    cases r.presenter <;> exact ⟨rfl, rfl⟩
  unfold route
  split
  · exact hpresent false
  · split
    · exact ⟨rfl, rfl⟩
    · dsimp only
      split
      · exact hpresent true
      · exact hpresent true

/-- What keeping a failure in the error log does to the host: if it wants that and the log cannot be
opened, it is told so. -/
def logged (r : Reporter) (files : FileTree) (h : H) : H :=
  if Host.logErrors h && !(files.openAppend r.logPath).isOk then r.tellUnopened h else h

/-- Keeping a failure in the error log shows it nowhere, and asks for no note. -/
theorem keep_frame (r : Reporter) (f : Failure) (a : Surroundings H) :
    (r.keep f a).dialogs = a.dialogs ∧ (r.keep f a).errorLines = a.errorLines ∧
    (r.keep f a).notes = a.notes ∧ (r.keep f a).host = a.host.map (r.logged a.files) := by
  have hwarning : ∀ (b : Surroundings H) (text : String),
      (b.writeLog (.warning text)).errorLines = b.errorLines :=
    fun b text => errorLines_writeLog nofun
  unfold keep logged
  cases hhost : a.host with
  | none => exact ⟨rfl, rfl, rfl, hhost⟩
  | some h =>
    dsimp only [Option.map_some]
    cases hlog : Host.logErrors h with
    | false => exact ⟨rfl, rfl, rfl, hhost⟩
    | true =>
      rw [if_pos rfl]
      unfold appendLog
      cases a.files.openAppend r.logPath with
      | error e =>
        refine ⟨rfl, hwarning a _, rfl, ?_⟩
        rw [host_onHost, host_writeLog, hhost]
        rfl
      | ok opened =>
        dsimp only
        split
        · exact ⟨rfl, hwarning _ _, rfl, hhost⟩
        · exact ⟨rfl, rfl, rfl, hhost⟩

/-- Keeping a failure in the error log writes its block there, if the host wants that, and changes
no other file. -/
theorem files_keep (r : Reporter) (f : Failure) (a : Surroundings H) :
    (r.keep f a).files = match a.host with
      | none => a.files
      | some h =>
        if Host.logErrors h then a.files.written r.logPath (f.logBlock h) else a.files := by
  unfold keep
  cases a.host with
  | none => rfl
  | some h =>
    dsimp only
    split
    · unfold appendLog FileTree.written
      cases a.files.openAppend r.logPath with
      | error e => rfl
      | ok opened =>
        dsimp only
        split <;> simp_all [Surroundings.writeLog]
    · rfl

/-- A report changes no file but the error log. -/
theorem agreeBut_report (r : Reporter) (event : String) (context : Option CallContext)
    (text : String) (a : Surroundings H) :
    a.files.AgreeBut [r.logPath] (r.report event context text a).2.files := by
  unfold report
  dsimp only
  rw [files_keep, (r.route_frame _ _).1]
  have hsame : a.files.AgreeBut [r.logPath] a.files := .refl _ _
  split
  · exact hsame
  · split
    · exact FileTree.agreeBut_written _ _ _
    · exact hsame

end Reporter

/-- A failure that is handed to the reporter of an engine, and the session in which it is. -/
structure Report (H : Type) where
  session : Session H
  event : String
  context : Option CallContext
  text : String

namespace Report

variable {H : Type} [Host H] (r : Report H)

open Surroundings

/-- The reporter to which the failure is handed. -/
abbrev reporter : Reporter := r.session.engine.reporter

/-- The record of the failure. -/
def record : Failure := (r.reporter.report r.event r.context r.text r.session.around).1

/-- The session after the report. -/
def made : Session H := r.session.after (Operation.report r.event r.context r.text)

/-- Whether the user asks for the console, if the failure is shown to one. -/
def asks : Bool := r.reporter.presenter.asks (r.session.around.dialogs ++ [⟨r.record, true⟩])

/-- A failure takes one route. Without a host, or with one that does not want errors on its console,
it is given to the presenter, once; the host only learns that the user asks for its console. If the
host wants errors there, the failure is written to the console, and not given to the presenter. The
host may further be told that the error log cannot be opened. -/
structure TakesOneRoute : Prop where
  unattached : r.session.around.host = none →
    Presented r.reporter.presenter [⟨r.record, false⟩] r.session.around r.made.around ∧
    r.made.around.host = none
  presented : ∀ h, r.session.around.host = some h → Host.errorsToOutput h = false →
    Presented r.reporter.presenter [⟨r.record, true⟩] r.session.around r.made.around ∧
    r.made.around.host =
      some (r.reporter.logged r.session.around.files
        (if r.asks then Host.routeErrors true h else h))
  consoled : ∀ h, r.session.around.host = some h → Host.errorsToOutput h = true →
    Presented r.reporter.presenter [] r.session.around r.made.around ∧
    r.made.around.host =
      some (r.reporter.logged r.session.around.files (Reporter.writeConsole r.record h))

/-- Every failure takes one route. -/
theorem takesOneRoute : r.TakesOneRoute := by
  generalize hbegun : ({ r.session.around with
    reported := r.session.around.reported + 1 } : Surroundings H).writeLog
      (.debug ("[scripting] " ++ r.record.event ++ ": " ++ r.record.description)) = begun
  have hmade : r.made.around = r.reporter.keep r.record (r.reporter.route r.record begun) := by
    rw [← hbegun]
    rfl
  have hsame : begun.dialogs = r.session.around.dialogs ∧
      begun.errorLines = r.session.around.errorLines := by
    rw [← hbegun]
    exact ⟨rfl, errorLines_writeLog nofun⟩
  have hfiles : begun.files = r.session.around.files := by
    rw [← hbegun]
    rfl
  have hhost : begun.host = r.session.around.host := by
    rw [← hbegun]
    rfl
  -- What is shown by the route stays so when the failure is kept in the error log.
  have hrouted : ∀ (given : List Dialog) (host : Option H),
      Presented r.reporter.presenter given begun (r.reporter.route r.record begun) ∧
        (r.reporter.route r.record begun).host = host →
      Presented r.reporter.presenter given r.session.around r.made.around ∧
        r.made.around.host = host.map (r.reporter.logged r.session.around.files) := by
    intro given host hroute
    obtain ⟨hdialogs, hlines, -, hkept⟩ :=
      r.reporter.keep_frame r.record (r.reporter.route r.record begun)
    rw [hmade]
    refine ⟨hroute.1.congr hsame ⟨hdialogs, hlines⟩, ?_⟩
    rw [hkept, hroute.2, (r.reporter.route_frame r.record begun).1, hfiles]
  refine ⟨?_, ?_, ?_⟩
  · intro hnone
    exact hrouted _ none (r.reporter.route_unattached r.record (hhost.trans hnone))
  · intro h hsome hout
    have hroute := r.reporter.route_presented r.record (hhost.trans hsome) hout
    rw [hsame.1] at hroute
    exact hrouted _ _ hroute
  · intro h hsome hout
    exact hrouted _ _ (r.reporter.route_consoled r.record (hhost.trans hsome) hout)

end Report

/-! ## What is done between reports -/

/-- A view of the host that shows neither traces nor its origin, its style and its script time, nor
what scripts ask for. -/
structure Aside {H γ : Type} [Host H] (view : H → γ) : Prop where
  trace : ∀ (text : String) (h : H), view (Host.trace text h) = view h
  setOrigin : ∀ (o : Origin) (h : H), view (Host.setOrigin o h) = view h
  setStyle : ∀ (t : NoteStyle) (h : H), view (Host.setStyle t h) = view h
  addTime : ∀ h : H, view (Host.addTime h) = view h
  absorb : ∀ (e : Effect) (h : H), view (Host.absorb e h) = view h

/-- A view that shows nothing shows none of these. -/
theorem aside_nothing {H : Type} [Host H] : Aside (fun _ : H => ()) :=
  ⟨fun _ _ => rfl, fun _ _ => rfl, fun _ _ => rfl, fun _ => rfl, fun _ _ => rfl⟩

/-- A document without its traces, its origin, its style and its script time. -/
def Document.lasting (d : Document) : Document :=
  { d with traces := [], origin := .unknown, style := .normal, timed := 0 }

/-- Scripts and what goes on around them do not concern what lasts of a document. -/
theorem Document.aside_lasting : Aside Document.lasting where
  trace _ _ := rfl
  setOrigin _ _ := rfl
  setStyle _ _ := rfl
  addTime _ := rfl
  absorb e h := by cases e <;> rfl

/-- Where failures are shown: the reporter, the number of those that were reported, the dialogs and
a view of the host. -/
structure Scene (γ : Type) where
  reporter : Reporter
  reported : Nat
  dialogs : List Dialog
  host : Option γ

section

variable {H γ : Type} [Host H] (view : H → γ)

/-- Where the failures of a session are shown. -/
def Session.scene (s : Session H) : Scene γ :=
  ⟨s.engine.reporter, s.around.reported, s.around.dialogs, s.around.host.map view⟩

/-- From one session to another nothing happened where failures are shown, and the files are those
that the requests of scripts left. -/
structure Session.Still (s t : Session H) : Prop where
  scene : t.scene view = s.scene view
  files : ∃ requests, t.around.asked = s.around.asked ++ requests ∧
    t.around.files = s.around.files.serveAll requests

/-- From one session to another these failures were reported, in order, and nothing else happened
where failures are shown. -/
inductive Reporting : Session H → List (Report H) → Session H → Prop
  | quiet {s t : Session H} (h : s.Still view t) : Reporting s [] t
  | report {s t : Session H} {r : Report H} {rest : List (Report H)}
      (h : s.Still view r.session) (hrest : Reporting r.made rest t) :
      Reporting s (r :: rest) t

end

namespace Session.Still

variable {H γ : Type} {view : H → γ} {s t u : Session H}

/-- A change that is seen neither where failures are shown nor at the files. -/
theorem of_scene (h : t.scene view = s.scene view) (hasked : t.around.asked = s.around.asked)
    (hfiles : t.around.files = s.around.files) : s.Still view t :=
  ⟨h, [], by rw [hasked, List.append_nil], hfiles⟩

/-- Nothing happened to a session that stayed the same. -/
theorem refl (s : Session H) : s.Still view s := of_scene rfl rfl rfl

/-- Where nothing happened twice, nothing happened. -/
theorem trans (hst : s.Still view t) (htu : t.Still view u) : s.Still view u := by
  obtain ⟨first, hasked, hfiles⟩ := hst.files
  obtain ⟨last, hasked', hfiles'⟩ := htu.files
  refine ⟨htu.scene.trans hst.scene, first ++ last, ?_, ?_⟩
  · rw [hasked', hasked, List.append_assoc]
  · rw [hfiles', hfiles, FileTree.serveAll_append]

end Session.Still

namespace Reporting

variable {H γ : Type} [Host H] {view : H → γ} {s t u : Session H} {rs rs' : List (Report H)}

/-- Nothing that is shown may come before the reports. -/
theorem lead (h : s.Still view t) (hrest : Reporting view t rs u) : Reporting view s rs u := by
  cases hrest with
  | quiet hquiet => exact .quiet (h.trans hquiet)
  | report hstill hrest => exact .report (h.trans hstill) hrest

/-- Reports are made one after the other. -/
theorem append (hfirst : Reporting view s rs t) (hlast : Reporting view t rs' u) :
    Reporting view s (rs ++ rs') u := by
  induction hfirst with
  | quiet h => exact hlast.lead h
  | report h _ ih => exact .report h (ih hlast)

end Reporting

/-- The report that an episode makes. -/
def Episode.report? {H : Type} : Episode H → Option (Report H)
  | .site r (.failed message) u =>
    some ⟨u.after (Operation.count fun c => { c with runtimeErrors := c.runtimeErrors + 1 }),
      runtimeEvent, some r.context, message⟩
  | .source (.notLoaded message) u =>
    some ⟨u.after (Operation.count fun c => { c with compileErrors := c.compileErrors + 1 }),
      compileEvent, none, message⟩
  | .source (.failed message) u =>
    some ⟨u.after (Operation.count fun c => { c with runtimeErrors := c.runtimeErrors + 1 }),
      runtimeEvent, none, message⟩
  | _ => none

namespace Operation

variable {H γ : Type} [Host H] {view : H → γ}

omit [Host H] in
/-- What a view does not show of the host is done aside. -/
theorem keeps_scene_onHost {f : H → H} (hf : ∀ h, view (f h) = view h) :
    Keeps (Session.scene view) (onAround (·.onHost f) : OperationOn H Unit) := by
  refine keeps_onAround fun s => ?_
  exact congrArg (Scene.mk s.engine.reporter s.around.reported s.around.dialogs)
    (s.around.map_host_onHost hf)

variable (hview : Aside view)

include hview

/-- Nothing happens in the background where failures are shown. -/
theorem background_scene :
    Background (fun s t : Session H => t.scene view = s.scene view) :=
  background_of_view (fun _ _ _ _ => rfl) (fun _ _ _ _ _ => rfl)
    (fun e => keeps_scene_onHost (hview.absorb e))
    (fun t => keeps_scene_onHost (hview.setStyle t))
    (fun o => keeps_scene_onHost (hview.setOrigin o)) (keeps_scene_onHost hview.addTime)

/-- Only the requests of scripts concern the files in the background. -/
theorem background_still : Background (Session.Still view) where
  refl := .refl
  trans := .trans
  machine _ _ _ _ := .of_scene rfl rfl rfl
  undergo s vm hfiles := ⟨(background_scene hview).undergo s vm hfiles, vm.asked, rfl, hfiles⟩
  log _ _ := .of_scene rfl rfl rfl
  style t s := .of_scene ((background_scene hview).style t s) rfl rfl
  origin o s := .of_scene ((background_scene hview).origin o s) rfl rfl
  time s := .of_scene ((background_scene hview).time s) rfl rfl

omit [Host H] hview in
/-- Nothing is shown when something is counted. -/
theorem leads_still_count (f : Stats → Stats) :
    Leads (Session.Still view) (count f : OperationOn H Unit) :=
  fun _ => .of_scene rfl rfl rfl

/-- Nothing is shown when a dispatch is traced. -/
theorem leads_still_traceDispatch (r : Request) :
    Leads (Session.Still view) (traceDispatch r : OperationOn H Unit) :=
  leads_traceDispatch .refl
    (fun text s => .of_scene (keeps_scene_onHost (hview.trace text) s) rfl rfl) r

/-- Nothing is shown before a dispatch is concluded. -/
theorem leads_still_scopedRun (live : Live) (r : Request) (arguments : Machine (List Value)) :
    Leads (Session.Still view) (scopedRun live r arguments : OperationOn H SiteRun) := by
  have hinner := (background_still hview).inner
  refine hinner.bind (leads_still_traceDispatch hview r) fun _ => ?_
  exact hinner.inScope (hinner.runSite leads_still_count live r arguments)

/-- The reports of the episodes are those that are made. -/
theorem chronicle_reports : Chronicle (fun (s : Session H) es t =>
    Reporting view s (es.filterMap Episode.report?) t) where
  trans := by
    intro s t u es es' hst htu
    rw [List.filterMap_append]
    exact hst.append htu
  background h := .quiet (h (background_still hview))
  skipped _ := .quiet (leads_still_count _ _)
  source s live source label := by
    have hrun := (background_still hview).inner.attempt leads_still_count live source label s
    rw [runSource_eq, Session.after_bind]
    unfold Session.sourceEpisode
    generalize s.after (attempt live source label) = u at *
    have hcounted : ∀ f, s.Still view (u.after (count f)) :=
      fun f => hrun.trans (leads_still_count f u)
    cases s.answer (attempt live source label) with
    | notLoaded message =>
      exact .report (hcounted fun c => { c with compileErrors := c.compileErrors + 1 })
        (.quiet (.refl _))
    | failed message =>
      exact .report (hcounted fun c => { c with runtimeErrors := c.runtimeErrors + 1 })
        (.quiet (.refl _))
    | finished => exact .quiet (hrun.trans ((background_still hview).time u))
  site s live token r arguments counter := by
    have hrun := leads_still_scopedRun hview live r arguments s
    generalize s.after (scopedRun live r arguments) = u at *
    have hcounted : ∀ f, s.Still view (u.after (count f)) :=
      fun f => hrun.trans (leads_still_count f u)
    cases s.answer (scopedRun live r arguments) with
    | notFound =>
      have hfailed := hcounted fun c => { c with resolutionFailures := c.resolutionFailures + 1 }
      exact .quiet (hfailed.trans ((background_still hview).log _ _))
    | failed message =>
      exact .report (hcounted fun c => { c with runtimeErrors := c.runtimeErrors + 1 })
        (.quiet (.refl _))
    | returned results => exact .quiet (hrun.trans ((background_still hview).time u))

/-- A statement about the reports between two sessions that can be put together holds of a run if it
holds where nothing happens but these reports. -/
theorem chronicle_of_reporting
    {P : Session H → List (Report H) → Session H → Prop}
    (htrans : ∀ {s t u rs rs'}, P s rs t → P t rs' u → P s (rs ++ rs') u)
    (h : ∀ {s rs t}, Reporting view s rs t → P s rs t) :
    Chronicle fun (s : Session H) es t => P s (es.filterMap Episode.report?) t where
  trans := by
    intro s t u es es' hst htu
    rw [List.filterMap_append]
    exact htrans hst htu
  background hsame := h ((chronicle_reports hview).background hsame)
  skipped s := h ((chronicle_reports hview).skipped s)
  source s live source label := h ((chronicle_reports hview).source s live source label)
  site s live token r arguments counter :=
    h ((chronicle_reports hview).site s live token r arguments counter)

end Operation

/-! ## Failing dispatches -/

namespace World

variable {H γ : Type} [Host H] {view : H → γ}

/-- The reports that an action makes. -/
def reports (w : World H) (a : Action H) : List (Report H) :=
  (w.episodes a).filterMap Episode.report?

/-- The reports of an action are those that are made. -/
theorem reporting_after (hview : Aside view) (w : World H) {a : Action H}
    (h : a.movesHost = false) :
    Reporting view w.session (w.reports a) (w.after a).session :=
  (Operation.chronicle_reports hview).after h

/-- An action that fails answers with an error. -/
theorem exists_error_of_fails {w : World H} {a : Action H} (h : w.fails a = true) :
    ∃ d e, w.verdict a = some d ∧ d.answer = .error e := by
  unfold fails at h
  cases hd : w.verdict a with
  | none =>
    rw [hd] at h
    cases h
  | some d =>
    rw [hd] at h
    cases he : d.answer with
    | error e => exact ⟨d, e, rfl, he⟩
    | ok outcome =>
      dsimp only at h
      rw [he] at h
      cases h

/-- A dispatch that fails has run in a scope. -/
theorem call_of_error (w : World H) {a : Action H} {c : SiteCall} {d : Dispatched Unit}
    {e : ScriptError} (hc : a.call? = some c) (hd : w.verdict a = some d)
    (he : d.answer = .error e) :
    ∃ live run u, w.session.engine.live = some live ∧
      run = w.session.answer (Operation.scopedRun live c.request c.arguments) ∧
      w.episodes a = [.site c.request run u] ∧
      d = (run.dispatched ((w.tokens c.site).sync w.session.engine.generation) c.request
        c.counter).map fun _ => () := by
  rcases w.call_cases hc with ⟨-, -, hverdict⟩ | ⟨-, -, hverdict⟩ |
    ⟨live, run, u, hlive, hrun, hes, hverdict⟩
  · rw [hd] at hverdict
    cases hverdict
    cases he
  · rw [hd] at hverdict
    cases hverdict
    cases he
  · rw [hd] at hverdict
    exact ⟨live, run, u, hlive, hrun, hes, Option.some.inj hverdict⟩

/-- A dispatch that fails breaks its token in the generation of the engine. It is reported, once and
with the context of its request, if its name is that of a function; if it is not, the dispatch is
not reported. -/
theorem failed_dispatch_reported_iff_found (hview : Aside view) (w : World H) {a : Action H}
    {c : SiteCall} {d : Dispatched Unit} {e : ScriptError} (hc : a.call? = some c)
    (hd : w.verdict a = some d) (he : d.answer = .error e) :
    ((w.after a).tokens c.site).isBroken = true ∧
    ((w.after a).tokens c.site).generation =
      max (w.tokens c.site).generation (w.after a).session.engine.generation ∧
    Reporting view w.session (w.reports a) (w.after a).session ∧
    ∃ live, w.session.engine.live = some live ∧
      (((Machine.run (lookupFunction c.request.procedure)
        (live.vm.among w.session.around.files)).1 ≠ .ok none ∧
        ∃ r : Report H, w.reports a = [r] ∧ r.TakesOneRoute ∧ r.record.event = runtimeEvent ∧
          r.record.context = some c.request.context ∧
          e = .runtime c.request.procedure r.record.description) ∨
      ((Machine.run (lookupFunction c.request.procedure)
        (live.vm.among w.session.around.files)).1 = .ok none ∧
        w.reports a = [] ∧ e = .resolution c.request.procedure)) := by
  have hgeneration : (w.after a).session.engine.generation = w.session.engine.generation := by
    rw [after_of_call w hc]
    have hfooting := Operation.keeps_footing_callSite (w.tokens c.site) c.request c.arguments
      c.counter w.session
    exact congrArg (fun f => f.standing.generation) hfooting
  have htoken : (w.after a).tokens c.site = d.token := by
    have hcall := verdict_of_call w hc
    rw [hd] at hcall
    rw [tokens_after_of_call w hc, Option.some.inj hcall]
    rfl
  have hreporting : Reporting view w.session (w.reports a) (w.after a).session := by
    refine reporting_after hview w ?_
    cases a <;> first | rfl | cases hc
  rw [htoken, hgeneration]
  obtain ⟨live, run, u, hlive, hrun, hes, rfl⟩ := w.call_of_error hc hd he
  have hfound := Operation.scopedRun_notFound_iff w.session live c.request c.arguments
  rw [← hrun] at hfound
  have hmax : ((run.dispatched ((w.tokens c.site).sync w.session.engine.generation) c.request
      c.counter).map fun _ => ()).token.generation =
        max (w.tokens c.site).generation w.session.engine.generation := by
    rw [← Token.generation_sync_eq_max]
    exact run.generation_dispatched _ c.request c.counter
  unfold reports at hreporting ⊢
  rw [hes] at hreporting ⊢
  cases run with
  | notFound =>
    cases he
    exact ⟨rfl, hmax, hreporting, live, hlive, .inr ⟨hfound.mp rfl, rfl, rfl⟩⟩
  | failed message =>
    cases he
    refine ⟨rfl, hmax, hreporting, live, hlive, .inl ⟨?_, ?_⟩⟩
    · intro hnone
      cases hfound.mpr hnone
    · exact ⟨_, rfl, Report.takesOneRoute _, rfl, rfl, rfl⟩
  | returned results => cases he

/-- A new engine whose failures are shown in dialogs to a user who always or never asks for the
console. It has a document, and its machines get none of the libraries. -/
def watched (asks : Bool) : World :=
  ⟨.new (.new ⟨none, "", "", true, false⟩ ⟨Library.all.map (·, .nothing), []⟩
    (.dialog fun _ => asks) "") (some (.new "world")), fun _ => .fresh⟩

/-- The engine is opened, and a function is defined that calls one which is missing. -/
def watchedActions : List (Action Document) :=
  [.openEngine,
    .execute [.setGlobal (textBytes "f") (.function [.run (.call (.global (textBytes "g")) [])])]
      "Script file"]

/-- A trigger that calls a function. -/
def fire (name : String) : Action Document := .dispatch 0 (.new name "trigger" "a line came") 0

/-- The call of a function that fails breaks the token and is shown in one dialog. -/
theorem failed_dispatch_reported_iff_found_watched :
    let w := (watched false).run watchedActions
    ((w.after (fire "f")).tokens 0).isBroken = true ∧
    (∃ r : Report Document, w.reports (fire "f") = [r] ∧ r.TakesOneRoute ∧
      r.record.context = some ⟨"f", "trigger", "a line came"⟩) ∧
    (w.after (fire "f")).session.around.dialogs.length = 1 := by
  have hfails : ((watched false).run watchedActions).fails (fire "f") = true := by
    decide +kernel
  have hreported : (((watched false).run watchedActions).reports (fire "f")).length = 1 := by
    decide +kernel
  have hshown : (((watched false).run watchedActions).after
      (fire "f")).session.around.dialogs.length = 1 := by
    decide +kernel
  dsimp only
  generalize (watched false).run watchedActions = w at *
  obtain ⟨d, e, hd, he⟩ := exists_error_of_fails hfails
  obtain ⟨hbroken, -, -, live, -, hsplit⟩ :=
    failed_dispatch_reported_iff_found Document.aside_lasting w rfl hd he
  rcases hsplit with ⟨-, r, hreports, hroute, -, hcontext, -⟩ | ⟨-, hnone, -⟩
  · exact ⟨hbroken, ⟨r, hreports, hroute, hcontext⟩, hshown⟩
  · rw [hnone] at hreported
    cases hreported

/-- A trigger whose function is missing fails, and nothing of that is shown. -/
theorem missing_function_unreported :
    let w := (watched false).run [.openEngine]
    w.fails (fire "missing") = true ∧ (w.reports (fire "missing")).length = 0 ∧
    (w.after (fire "missing")).session.around.dialogs = [] ∧
    (w.after (fire "missing")).session.around.errorLines = [] ∧
    (w.after (fire "missing")).session.around.host.map Document.console = some [] := by
  decide +kernel

end World

end EventScripts
