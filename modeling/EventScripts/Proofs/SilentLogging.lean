import EventScripts.Proofs.FailureRoutes
import EventScripts.Proofs.PairedSessions

/-!
# Keeping an error log makes no other difference

What is left of the surroundings without the files, the log and the consoles of documents does not
tell whether a document keeps an error log. Every operation commutes with leaving these out, as long
as scripts do not look at the error log. So a run in which no document keeps an error log gives the
same replies, the same records of failures, the same tokens, the same counts and the same other
files as the run in which some do.
-/

set_option autoImplicit false

namespace EventScripts

open Script

/-! ## Leaving out what logging may touch -/

/-- A document without its console, and that keeps no error log. -/
def Document.unlogged (d : Document) : Document :=
  { d with logErrors := false, console := [], pending := "" }

namespace Surroundings

/-- Surroundings without the files, the log and the console of the document. -/
def unlogged (a : Surroundings) : Surroundings :=
  { a with host := a.host.map Document.unlogged, files := .fresh, log := [] }

/-- What was left out is left out once. -/
theorem unlogged_unlogged (a : Surroundings) : a.unlogged.unlogged = a.unlogged := by
  unfold unlogged
  cases a.host <;> rfl

/-- The log is left out. -/
theorem unlogged_writeLog (a : Surroundings) (line : LogLine) :
    (a.writeLog line).unlogged = a.unlogged := by
  rfl

/-- What is left of the host. -/
theorem host_unlogged (a : Surroundings) : a.unlogged.host = a.host.map Document.unlogged := by
  rfl

/-- A change of the document that depends on nothing that is left out. -/
theorem unlogged_onHost {f : Document → Document}
    (hf : ∀ d, (f d).unlogged = (f d.unlogged).unlogged) (a : Surroundings) :
    (a.onHost f).unlogged = (a.unlogged.onHost f).unlogged := by
  unfold unlogged onHost
  cases a.host with
  | none => rfl
  | some d => simp [hf d]

/-- A change of the document that concerns only what is left out. -/
theorem unlogged_onHost_eq {f : Document → Document} (hf : ∀ d, (f d).unlogged = d.unlogged)
    (a : Surroundings) : (a.onHost f).unlogged = a.unlogged := by
  unfold unlogged onHost
  cases a.host with
  | none => rfl
  | some d => simp [hf d]

/-- What a script does outside depends on nothing that is left out. -/
theorem unlogged_apply (e : Effect) (a : Surroundings) :
    (a.apply e).unlogged = (a.unlogged.apply e).unlogged := by
  cases e with
  | record values =>
    have hcurrent : a.current = a.unlogged.current := by
      unfold current unlogged
      cases a.host <;> rfl
    unfold apply
    rw [hcurrent]
    unfold unlogged
    cases a.host <;> rfl
  | origin o => exact unlogged_onHost (fun _ => rfl) a
  | style t => exact unlogged_onHost (fun _ => rfl) a
  | log line =>
    calc (a.apply (.log line)).unlogged = a.unlogged := a.unlogged_writeLog line
      _ = a.unlogged.unlogged := a.unlogged_unlogged.symm
      _ = (a.unlogged.apply (.log line)).unlogged := (a.unlogged.unlogged_writeLog line).symm

/-- Nor does what it does there one after the other. -/
theorem unlogged_applyAll (effects : List Effect) (a : Surroundings) :
    (a.applyAll effects).unlogged = (a.unlogged.applyAll effects).unlogged := by
  unfold applyAll
  induction effects generalizing a with
  | nil => exact a.unlogged_unlogged.symm
  | cons e es ih =>
    rw [List.foldl_cons, List.foldl_cons, ih, ih (a.unlogged.apply e), unlogged_apply]

/-- What is done in a run depends on nothing that is left out, and the files that it leaves are left
out too. -/
theorem unlogged_undergo {a b : Surroundings} (h : a.unlogged = b.unlogged) {vm vm' : Vm}
    (hstore : vm'.toStore = vm.toStore) (hasked : vm'.asked = vm.asked) :
    (a.undergo vm).unlogged = (b.undergo vm').unlogged := by
  have hsplit : ∀ (a : Surroundings) (vm : Vm), (a.undergo vm).unlogged =
      { (a.unlogged.applyAll vm.effects).unlogged with
        asked := a.unlogged.asked ++ vm.asked } := by
    intro a vm
    rw [← unlogged_applyAll]
    rfl
  rw [hsplit, hsplit, h, hstore, hasked]

/-- A scope saves nothing that is left out. -/
theorem saved_unlogged (a : Surroundings) : a.enter.1 = a.unlogged.enter.1 := by
  unfold enter unlogged
  cases a.host <;> rfl

end Surroundings

namespace Reporter

open Surroundings

/-- What is written to the console is left out. -/
theorem unwritten_unlogged : Unwritten Document.unlogged where
  note _ _ _ _ := rfl
  tell _ _ _ _ := rfl

/-- Of a failure on the console the lines that are shown are left. -/
theorem unlogged_writeConsole (f : Failure) (d : Document) :
    (writeConsole f d).unlogged = (writeConsole f d.unlogged).unlogged := by
  have htexts := unwritten_unlogged.texts f.consoleTexts d
  have htexts' := unwritten_unlogged.texts f.consoleTexts d.unlogged
  unfold writeConsole
  cases f.line with
  | none => exact htexts.trans htexts'.symm
  | some line =>
    have hshow : ∀ h : Document, (Host.showErrorLines line h : Document).unlogged =
        { h.unlogged with highlighted := h.unlogged.highlighted ++ [line] } := fun _ => rfl
    rw [hshow, hshow, htexts, htexts']
    rfl

/-- A presenter is asked, and answers, independently of what is left out. -/
theorem unlogged_present (r : Reporter) (f : Failure) (haveHost : Bool) (a : Surroundings) :
    (r.present f haveHost a).1.unlogged = (r.present f haveHost a.unlogged).1.unlogged ∧
    (r.present f haveHost a).2 = (r.present f haveHost a.unlogged).2 := by
  unfold present
  cases r.presenter with
  | log => exact ⟨a.unlogged_unlogged.symm, rfl⟩
  | dialog answer =>
    have hdialogs : ∀ dialogs, ({ a with dialogs } : Surroundings).unlogged =
        ({ a.unlogged with dialogs } : Surroundings).unlogged := by
      intro dialogs
      exact congrArg (fun b : Surroundings => { b with dialogs }) a.unlogged_unlogged.symm
    exact ⟨hdialogs _, rfl⟩

/-- The route of a failure depends on nothing that is left out. -/
theorem unlogged_route (r : Reporter) (f : Failure) (a : Surroundings) :
    (r.route f a).unlogged = (r.route f a.unlogged).unlogged := by
  unfold route
  rw [host_unlogged]
  cases a.host with
  | none => exact (r.unlogged_present f false a).1
  | some d =>
    have hout : Host.errorsToOutput d.unlogged = Host.errorsToOutput d := rfl
    dsimp only [Option.map_some]
    rw [hout]
    split
    · exact unlogged_onHost (unlogged_writeConsole f) a
    · obtain ⟨hpresented, hasks⟩ := r.unlogged_present f true a
      rw [← hasks]
      split
      · rw [unlogged_onHost (fun _ => rfl), hpresented, ← unlogged_onHost fun _ => rfl]
      · exact hpresented

/-- Keeping a failure in the error log touches nothing else. -/
theorem unlogged_keep (r : Reporter) (f : Failure) (a : Surroundings) :
    (r.keep f a).unlogged = a.unlogged := by
  have hsame : ∀ files log, ({ a with files, log } : Surroundings).unlogged = a.unlogged :=
    fun _ _ => rfl
  unfold keep appendLog
  cases hhost : a.host with
  | none => rfl
  | some d =>
    dsimp only
    split
    · cases a.files.openAppend r.logPath with
      | error e => exact unlogged_onHost_eq (unwritten_unlogged.tellUnopened r) _
      | ok opened =>
        dsimp only
        rw [← hhost]
        split <;> exact hsame _ _
    · rfl

/-- Which documents keep an error log makes no difference to a report but in the log. -/
theorem unlogged_report (r : Reporter) (event : String) (context : Option CallContext)
    (text : String) (a : Surroundings) :
    (r.report event context text a).2.unlogged =
      (r.report event context text a.unlogged).2.unlogged := by
  have hrecord : ∀ date, Failure.new event context text a.unlogged.host date =
      Failure.new event context text a.host date := by
    intro date
    unfold Failure.new
    rw [host_unlogged]
    cases a.host <;> rfl
  have hcounted : ({ a.unlogged with reported := a.unlogged.reported + 1 } : Surroundings) =
      ({ a with reported := a.reported + 1 } : Surroundings).unlogged := rfl
  unfold report
  dsimp only
  rw [unlogged_keep, unlogged_keep, hrecord, unlogged_route, unlogged_writeLog, hcounted]
  rw [unlogged_route r _ (Surroundings.writeLog _ _), unlogged_writeLog, unlogged_unlogged]
  rfl

end Reporter

/-! ## Sessions that differ in what is logged -/

/-- Sessions that agree in everything but the log, the console of the document, whether it keeps an
error log, and the files at some paths, among which is the error log. -/
structure Session.SameButLogging (logs : List String) (s t : Session) : Prop where
  engine : s.engine = t.engine
  index : s.index = t.index
  around : s.around.unlogged = t.around.unlogged
  files : s.around.files.AgreeBut logs t.around.files
  isPrivate : s.logPath ∈ logs

namespace Operation

open Surroundings

variable {logs : List String}

/-- A change of the surroundings that depends on nothing that is left out, and not on the files. -/
theorem sameButLogging_onAround {f : Surroundings → Surroundings}
    (hf : ∀ a, (f a).unlogged = (f a.unlogged).unlogged) (hfiles : ∀ a, (f a).files = a.files)
    {s t : Session} (hst : s.SameButLogging logs t) :
    (s.after (onAround f)).SameButLogging logs (t.after (onAround f)) := by
  refine ⟨hst.engine, hst.index, ?_, ?_, hst.isPrivate⟩
  · calc (f s.around).unlogged = (f s.around.unlogged).unlogged := hf s.around
      _ = (f t.around.unlogged).unlogged := by rw [hst.around]
      _ = (f t.around).unlogged := (hf t.around).symm
  · rw [Session.after_onAround, Session.after_onAround, hfiles, hfiles]
    exact hst.files

/-- A report makes a difference only to what is left out and to the error log. -/
theorem sameButLogging_report {s t : Session} (hst : s.SameButLogging logs t) (event : String)
    (context : Option CallContext) (text : String) :
    (s.after (report event context text)).SameButLogging logs
      (t.after (report event context text)) := by
  have hengine : t.engine.reporter = s.engine.reporter := by rw [hst.engine]
  have hfiles : ∀ u : Session, u.engine.reporter = s.engine.reporter →
      u.around.files.AgreeBut logs (u.after (report event context text)).around.files :=
    fun u hu => (u.engine.reporter.agreeBut_report event context text u.around).mono
      (List.forall_mem_singleton.mpr (hu ▸ hst.isPrivate))
  refine ⟨hst.engine, hst.index, ?_,
    ((hfiles s rfl).symm.trans hst.files).trans (hfiles t hengine), hst.isPrivate⟩
  calc (s.after (report event context text)).around.unlogged
      = (s.engine.reporter.report event context text s.around.unlogged).2.unlogged :=
        s.engine.reporter.unlogged_report event context text s.around
    _ = (t.engine.reporter.report event context text t.around.unlogged).2.unlogged := by
        rw [hst.around, hengine]
    _ = (t.after (report event context text)).around.unlogged :=
        (t.engine.reporter.unlogged_report event context text t.around).symm

/-- Operations never depend on what is left out. -/
theorem pairs_sameButLogging : Pairs logs (Session.SameButLogging logs) where
  total s hs := ⟨s, rfl, rfl, rfl, .refl _ _, hs⟩
  isPrivate h := h.isPrivate
  inside h := by
    unfold Session.inside
    rw [h.engine, h.index]
  files h := h.files
  refit h live stats generation index := by
    refine ⟨?_, rfl, h.around, h.files, h.isPrivate⟩
    unfold Session.refit
    rw [h.engine]
  undergo h _ _ hstore hasked hfiles :=
    ⟨h.engine, h.index, unlogged_undergo h.around hstore hasked, hfiles, h.isPrivate⟩
  log h line := sameButLogging_onAround (unlogged_apply (.log line)) (fun _ => rfl) h
  trace {s t} h r := by
    unfold traceDispatch
    rw [Session.after_bind, Session.after_bind, Session.answer_get, Session.answer_get,
      Session.after_get, Session.after_get, h.engine]
    split
    · exact sameButLogging_onAround (unlogged_onHost fun _ => rfl) (fun _ => rfl) h
    · exact h
  origin h o := by
    refine sameButLogging_onAround (fun a => ?_) (fun a => a.files_setOrigin o) h
    unfold setOrigin
    split
    · exact a.unlogged_unlogged.symm
    · exact unlogged_onHost (fun _ => rfl) a
  time h := sameButLogging_onAround (unlogged_onHost fun _ => rfl) (fun _ => rfl) h
  report h event context text := sameButLogging_report h event context text
  enter h := sameButLogging_onAround (unlogged_onHost fun _ => rfl) (fun _ => rfl) h
  leave {s t u v} h h' := by
    rw [saved_unlogged s.around, h.around, ← saved_unlogged t.around]
    exact sameButLogging_onAround (unlogged_onHost fun _ => rfl) (fun _ => rfl) h'

/-- Documents register the same routines. -/
theorem registerAlike_sameButLogging : RegisterAlike (Session.SameButLogging logs) := by
  intro s t hst selection
  have hhost : s.around.host.map Document.unlogged = t.around.host.map Document.unlogged :=
    congrArg Surroundings.host hst.around
  have hregister : ∀ host : Option Document,
      firstSteps host selection = firstSteps (host.map Document.unlogged) selection := by
    intro host
    cases host <;> rfl
  rw [hregister s.around.host, hhost, ← hregister]

end Operation

/-! ## Runs without an error log -/

/-- The same document, but keeping no error log. -/
def Document.silent (d : Document) : Document := { d with logErrors := false }

/-- It is left out whether a document keeps an error log. -/
theorem Document.unlogged_silent (d : Document) : d.silent.unlogged = d.unlogged := by
  rfl

/-- The same action, with another host where one is attached. -/
def Action.map {H H' : Type} (f : H → H') : Action H → Action H'
  | .attach h => .attach (f h)
  | .detach => .detach
  | .openEngine => .openEngine
  | .close => .close
  | .reset => .reset
  | .execute source label => .execute source label
  | .probe site name => .probe site name
  | .copy origin site => .copy origin site
  | .dispatch site r counter => .dispatch site r counter
  | .dispatchText site r text counter => .dispatchText site r text counter

/-- Where no host is moved it is the same action. -/
theorem Action.hostless?_eq_map {H H' : Type} (f : H → H') {a : Action H}
    (h : a.movesHost = false) : a.hostless? = some (a.map f) := by
  cases a with
  | attach d => cases h
  | detach => cases h
  | _ => rfl

/-- Failures in sessions with the same text about the host have the same record. -/
theorem Failure.new_congr {H H' : Type} [Host H] [Host H'] {host : Option H} {host' : Option H'}
    (h : Failure.raisedByText host = Failure.raisedByText host') (event : String)
    (context : Option CallContext) (text date : String) :
    Failure.new event context text host date = Failure.new event context text host' date := by
  unfold Failure.new
  rw [h]

/-- A failure has the same record in sessions that differ only in what is logged. -/
theorem Report.record_congr {s t : Session} {logs : List String} (h : s.SameButLogging logs t)
    (event : String) (context : Option CallContext) (text : String) :
    (⟨s, event, context, text⟩ : Report Document).record =
      (⟨t, event, context, text⟩ : Report Document).record := by
  have hhost : s.around.host.map Document.unlogged = t.around.host.map Document.unlogged :=
    congrArg Surroundings.host h.around
  have hreported : s.around.unlogged.reported = t.around.unlogged.reported :=
    congrArg Surroundings.reported h.around
  change s.around.reported = t.around.reported at hreported
  have hraised : ∀ host : Option Document, Failure.raisedByText host =
      Failure.raisedByText (host.map Document.unlogged) := by
    intro host
    cases host <;> rfl
  unfold Report.record Report.reporter Reporter.report
  dsimp only
  rw [h.engine, hreported]
  refine Failure.new_congr ?_ _ _ _ _
  rw [hraised, hhost, ← hraised]

/-- Paired episodes give the same records. -/
theorem Episode.records_eq {logs : List String} {es es' : List (Episode Document)}
    (h : List.Forall₂ (Episode.Paired (Session.SameButLogging logs)) es es') :
    (es.filterMap Episode.report?).map Report.record =
      (es'.filterMap Episode.report?).map Report.record := by
  have hcounted : ∀ {u v : Session} (f : Stats → Stats), u.SameButLogging logs v →
      (u.after (Operation.count f)).SameButLogging logs (v.after (Operation.count f)) := by
    intro u v f huv
    refine ⟨?_, huv.index, huv.around, huv.files, huv.isPrivate⟩
    unfold Operation.count
    rw [Session.after_onEngine, Session.after_onEngine, huv.engine]
  induction h with
  | nil => rfl
  | cons hepisode _ ih =>
    cases hepisode with
    | skipped => exact ih
    | @site r run u v huv =>
      cases run with
      | failed message =>
        exact congrArg₂ List.cons (Report.record_congr (hcounted _ huv) _ _ _) ih
      | notFound => exact ih
      | returned results => exact ih
    | @source run u v huv =>
      cases run with
      | notLoaded message =>
        exact congrArg₂ List.cons (Report.record_congr (hcounted _ huv) _ _ _) ih
      | failed message =>
        exact congrArg₂ List.cons (Report.record_congr (hcounted _ huv) _ _ _) ih
      | finished => exact ih

namespace World

/-- The same world, but its document keeps no error log. -/
def silent (w : World) : World :=
  { w with session := { w.session with around := w.session.around.onHost Document.silent } }

variable {logs : List String}

/-- A world and the same one without error logs are paired. -/
theorem paired_silent {w : World} (hlog : w.session.logPath ∈ logs) :
    Paired (Session.SameButLogging logs) w w.silent :=
  ⟨⟨rfl, rfl, (Surroundings.unlogged_onHost_eq Document.unlogged_silent w.session.around).symm,
    .refl _ _, hlog⟩, rfl⟩

/-- An action gives the same reply and the same records where no document keeps an error log. -/
theorem after_silent {w v : World} (h : Paired (Session.SameButLogging logs) w v)
    (a : Action Document) :
    w.session.Sparing logs (w.after a).session
      ((w.reply? a = v.reply? (a.map Document.silent) ∧
        (w.reports a).map Report.record =
          (v.reports (a.map Document.silent)).map Report.record) ∧
        Paired (Session.SameButLogging logs) (w.after a) (v.after (a.map Document.silent))) := by
  cases hmoves : a.movesHost with
  | false =>
    refine (h.after Operation.pairs_sameButLogging (Action.hostless?_eq_map Document.silent hmoves)
      fun _ => Operation.registerAlike_sameButLogging).imp ?_
    rintro ⟨hreply, hepisodes, hafter⟩
    exact ⟨⟨hreply, Episode.records_eq hepisodes⟩, hafter⟩
  | true =>
    -- Moving a host is no operation, so the worlds are compared field by field.
    have hother : ∀ host host' : Option Document,
        host.map Document.unlogged = host'.map Document.unlogged →
        ({ w.session.around with host } : Surroundings).unlogged =
          ({ v.session.around with host := host' } : Surroundings).unlogged := by
      intro host host' hhost
      unfold Surroundings.unlogged
      rw [hhost]
      exact congrArg (fun b : Surroundings => { b with host := host'.map Document.unlogged })
        h.session.around
    have hmoved : ∀ host host' : Option Document,
        host.map Document.unlogged = host'.map Document.unlogged →
        Session.SameButLogging logs
          { w.session with around := { w.session.around with host } }
          { v.session with around := { v.session.around with host := host' } } :=
      fun host host' hhost => ⟨h.session.engine, h.session.index, hother host host' hhost,
        h.session.files, h.session.isPrivate⟩
    cases a with
    | attach d =>
      exact .of_asks_nil (.of_eq rfl rfl)
        ⟨⟨rfl, rfl⟩, hmoved (some d) (some d.silent) rfl, h.tokens⟩
    | detach =>
      exact .of_asks_nil (.of_eq rfl rfl) ⟨⟨rfl, rfl⟩, hmoved none none rfl, h.tokens⟩
    | _ => cases hmoves

/-- Keeping an error log makes no difference to a run but in the error log, in the log and on the
consoles of the documents: it gives the same replies, the same records of failures, the same tokens
and the same counts as without one, as long as the requests of scripts leave the error log alone. -/
theorem run_silent {w v : World} (h : Paired (Session.SameButLogging logs) w v)
    (actions : List (Action Document)) :
    w.session.Sparing logs (w.run actions).session
      (w.replies actions = v.replies (actions.map (Action.map Document.silent)) ∧
        (w.reportsIn actions).map Report.record =
          (v.reportsIn (actions.map (Action.map Document.silent))).map Report.record ∧
        Paired (Session.SameButLogging logs) (w.run actions)
          (v.run (actions.map (Action.map Document.silent)))) := by
  induction actions generalizing w v with
  | nil => exact .of_asks_nil (.of_eq rfl rfl) ⟨rfl, rfl, h⟩
  | cons a rest ih =>
    refine (Paired.trans Operation.pairs_sameButLogging h.session.isPrivate (after_silent h a)
      fun v hv => ih hv).imp ?_
    rintro ⟨⟨hreply, hrecords⟩, hreplies, hrest, hend⟩
    rw [List.map_cons, replies_cons, replies_cons, hreply, hreplies]
    refine ⟨rfl, ?_, hend⟩
    unfold reportsIn at hrest ⊢
    rw [along, along, List.flatten_cons, List.flatten_cons, List.map_append, List.map_append,
      hrecords, hrest]

end World

end EventScripts
