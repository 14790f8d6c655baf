import EventScripts.Proofs.SilentLogging

/-!
# The error log over a run

Every failure that is reported while a host is attached that keeps an error log adds one block to
the file, in the order of the failures and whichever way each of them is shown. The block has the
texts and the lines of the source that the console would show. Reports write nothing else, so as
long as scripts leave the error log alone, what the file held at the start comes first and stays.

If the file cannot be opened, reports change no file at all, and all that comes of it is one line on
the console of the host.

Scripts can do what they like with files. One that writes to the error log forges it.
-/

set_option autoImplicit false

namespace EventScripts

open Script

/-! ## A file that is kept -/

namespace FileTree

variable {t u v : FileTree} {path : String}

/-- After requests and texts that were to be written at the end of a file: the path leads where it
led, the file has grown by these texts, and all other files are as the requests left them. If no
file can be opened, that is all that happened. -/
structure Keeps (t : FileTree) (path : String) (requests : List FileRequest) (texts : List String)
    (u : FileTree) : Prop where
  target : u.target? path = t.target? path
  grown : ∀ place, t.target? path = some (.file place) →
    (u.bytes? place).getD [] = (t.bytes? place).getD [] ++ textBytes (String.join texts)
  others : (t.serveAll requests).AgreeBut [path] u
  unopened : t.target? path = none → u = t.serveAll requests

/-- Requests that leave the file alone keep it. -/
theorem keeps_serveAll {requests : List FileRequest}
    (hclear : ∀ q ∈ requests, q.LeavesAlone [path]) :
    t.Keeps path requests [] (t.serveAll requests) := by
  obtain ⟨htarget, hbytes⟩ := untouched_serveAll hclear t path (List.mem_singleton_self path)
  refine ⟨htarget, fun place hplace => ?_, .refl _ _, fun _ => rfl⟩
  rw [(leadsTo_of_target hplace).place_eq, hbytes]
  exact (List.append_nil _).symm

/-- A text that is written at the end of the file keeps it. -/
theorem keeps_written (t : FileTree) (path text : String) :
    t.Keeps path [] [text] (t.written path text) := by
  have hagree := agreeBut_written t path text
  refine ⟨target?_congr fun q _ => hagree.directories q, fun place hplace => ?_, hagree,
    fun hnone => written_of_no_file (fun place hplace => ?_) text⟩
  · obtain ⟨-, -, hbytes⟩ := (leadsTo_of_target hplace).written text
    rw [hbytes, if_pos rfl]
    simp
  · rw [hnone] at hplace
    cases hplace

/-- A file that was kept twice was kept. -/
theorem Keeps.trans {requests requests' : List FileRequest} {texts texts' : List String}
    (htu : t.Keeps path requests texts u) (huv : u.Keeps path requests' texts' v)
    (hclear : ∀ q ∈ requests', q.LeavesAlone [path]) :
    t.Keeps path (requests ++ requests') (texts ++ texts') v := by
  refine ⟨huv.target.trans htu.target, fun place hplace => ?_, ?_, fun hnone => ?_⟩
  · rw [huv.grown place (htu.target.trans hplace), htu.grown place hplace, String.join_append,
      textBytes_append, List.append_assoc]
  · rw [serveAll_append]
    exact (htu.others.serveAll hclear).trans huv.others
  · rw [huv.unopened (htu.target.trans hnone), htu.unopened hnone, serveAll_append]

end FileTree

/-! ## What a report writes -/

section

variable {H : Type} [Host H]

/-- What a host decides about the error log: whether it keeps one, and the lines of the source. -/
def logging (h : H) : Bool × (Nat → String) := (Host.logErrors h, Host.errorLinesText h)

/-- Nothing that a report does to a document concerns what it decides about the error log. -/
theorem Document.unseen_logging : Reporter.Unseen (logging : Document → Bool × (Nat → String)) where
  note _ _ _ _ := rfl
  tell _ _ _ _ := rfl
  showErrorLines _ _ := rfl
  routeErrors _ _ := rfl

namespace Report

/-- What a report adds to the error log, if the attached host keeps one. -/
def block? (r : Report H) : Option String :=
  r.session.around.host.bind fun h =>
    if Host.logErrors h then some (r.record.logBlock h) else none

/-- The host after a report, the error log aside. -/
def shownTo (r : Report H) (h : H) : H :=
  if Host.errorsToOutput h then Reporter.writeConsole r.record h
  else if r.asks then Host.routeErrors true h
  else h

/-- After a report the host has been shown the failure, and has perhaps been told that the error log
cannot be opened. -/
theorem host_made (r : Report H) :
    r.made.around.host =
      r.session.around.host.map fun h =>
        r.reporter.logged r.session.around.files (r.shownTo h) := by
  obtain ⟨hunattached, hpresented, hconsoled⟩ := r.takesOneRoute
  cases hhost : r.session.around.host with
  | none => exact (hunattached hhost).2
  | some h =>
    unfold shownTo
    cases hout : Host.errorsToOutput h with
    | true => simpa [hout] using (hconsoled h hhost hout).2
    | false => simpa [hout] using (hpresented h hhost hout).2

/-- A report writes its block to the error log, and no file otherwise. -/
theorem files_made (hlog : Reporter.Unseen (logging : H → Bool × (Nat → String)))
    (r : Report H) :
    r.made.around.files =
      match r.block? with
      | some block => r.session.around.files.written r.session.logPath block
      | none => r.session.around.files := by
  generalize hbegun : ({ r.session.around with
    reported := r.session.around.reported + 1 } : Surroundings H).writeLog
      (.debug ("[scripting] " ++ r.record.event ++ ": " ++ r.record.description)) = begun
  have hmade : r.made.around = r.reporter.keep r.record (r.reporter.route r.record begun) := by
    rw [← hbegun]
    rfl
  have hfiles : (r.reporter.route r.record begun).files = r.session.around.files := by
    rw [(r.reporter.route_frame r.record begun).1, ← hbegun]
    rfl
  have hhost : (r.reporter.route r.record begun).host.map logging =
      r.session.around.host.map logging := by
    rw [hlog.route, ← hbegun]
    rfl
  rw [hmade, Reporter.files_keep, hfiles]
  unfold block?
  cases hs : r.session.around.host with
  | none =>
    rw [hs] at hhost
    have hnone : (r.reporter.route r.record begun).host = none := by simpa using hhost
    rw [hnone]
    rfl
  | some h =>
    rw [hs] at hhost
    obtain ⟨h', hh', hsame⟩ := Option.map_eq_some_iff.mp hhost
    obtain ⟨hkeeps, hlines⟩ := Prod.mk.inj hsame
    have hblock : r.record.logBlock h' = r.record.logBlock h := by
      unfold Failure.logBlock
      rw [hlines]
    rw [hh', Option.bind_some]
    dsimp only
    rw [hkeeps, hblock]
    cases Host.logErrors h <;> rfl

end Report

/-! ## What a run writes -/

/-- From one session to another the error log was kept as long as scripts left it alone: it has
grown by the blocks of these reports, each of which found it where the path led at first. -/
def Session.Written (s : Session H) (rs : List (Report H)) (t : Session H) : Prop :=
  ∃ requests, s.Asks requests t ∧ ((∀ q ∈ requests, q.LeavesAlone [s.logPath]) →
    s.around.files.Keeps s.logPath requests (rs.filterMap Report.block?) t.around.files ∧
    ∀ r ∈ rs, r.session.around.files.target? s.logPath = s.around.files.target? s.logPath)

/-- Where nothing is reported, scripts have the files to themselves. -/
theorem Session.Still.written {γ : Type} {view : H → γ} {s t : Session H} (h : s.Still view t) :
    s.Written [] t := by
  obtain ⟨requests, hasked, hfiles⟩ := h.files
  have hreporter : t.engine.reporter = s.engine.reporter := congrArg Scene.reporter h.scene
  refine ⟨requests, ⟨congrArg Reporter.logPath hreporter, hasked⟩,
    fun hclear => ⟨?_, List.forall_mem_nil _⟩⟩
  rw [hfiles]
  exact FileTree.keeps_serveAll hclear

/-- A report writes its block. -/
theorem Report.written_made (hlog : Reporter.Unseen (logging : H → Bool × (Nat → String)))
    (r : Report H) : r.session.Written [r] r.made := by
  have hasked : r.made.around.asked = r.session.around.asked :=
    r.reporter.asked_report r.event r.context r.text r.session.around
  refine ⟨[], .of_eq rfl hasked, fun _ => ⟨?_, fun q hq => ?_⟩⟩
  · rw [r.files_made hlog]
    cases hblock : r.block? with
    | none => simpa [hblock] using FileTree.keeps_serveAll (List.forall_mem_nil _)
    | some block => simpa [hblock] using FileTree.keeps_written _ _ block
  · rw [List.mem_singleton.mp hq]

/-- What was written to the error log in two parts was written to it. -/
theorem Session.Written.trans {s t u : Session H} {rs rs' : List (Report H)}
    (hst : s.Written rs t) (htu : t.Written rs' u) : s.Written (rs ++ rs') u := by
  obtain ⟨first, hfirst, hkept⟩ := hst
  obtain ⟨last, hlast, hkept'⟩ := htu
  refine ⟨first ++ last, hfirst.trans hlast, fun hclear => ?_⟩
  obtain ⟨hclearFirst, hclearLast⟩ := List.forall_mem_append.mp hclear
  rw [hfirst.logPath] at hkept'
  obtain ⟨hkeeps, hduring⟩ := hkept hclearFirst
  obtain ⟨hkeeps', hduring'⟩ := hkept' hclearLast
  refine ⟨?_, fun r hr => ?_⟩
  · rw [List.filterMap_append]
    exact hkeeps.trans hkeeps' hclearLast
  · rcases List.mem_append.mp hr with hr | hr
    · exact hduring r hr
    · exact (hduring' r hr).trans hkeeps.target

/-- Where nothing happens but reports and requests, only blocks are written to the error log. -/
theorem Reporting.written (hlog : Reporter.Unseen (logging : H → Bool × (Nat → String)))
    {γ : Type} {view : H → γ} {s t : Session H} {rs : List (Report H)}
    (h : Reporting view s rs t) : s.Written rs t := by
  induction h with
  | quiet hstill => exact hstill.written
  | @report s t r rest hstill _ ih => exact hstill.written.trans ((r.written_made hlog).trans ih)

namespace World

/-- The requests that are made to the files in a run. -/
def requests (w : World H) (actions : List (Action H)) : List FileRequest :=
  (w.run actions).session.around.asked.drop w.session.around.asked.length

/-- The error log is kept over a run. -/
theorem written_run (hlog : Reporter.Unseen (logging : H → Bool × (Nat → String)))
    (w : World H) (actions : List (Action H)) :
    w.session.Written (w.reportsIn actions) (w.run actions).session := by
  rw [reportsIn_eq]
  refine (Operation.chronicle_of_reporting aside_nothing Session.Written.trans
    fun h => h.written hlog).run fun a _ hmoves v => ?_
  -- Moving a host is no operation, and concerns no file.
  have hmoved : ∀ host : Option H,
      v.session.Written [] { v.session with around := { v.session.around with host } } :=
    fun _ => ⟨[], .of_eq rfl rfl,
      fun hclear => ⟨FileTree.keeps_serveAll hclear, List.forall_mem_nil _⟩⟩
  cases a with
  | attach d => exact hmoved (some d)
  | detach => exact hmoved none
  | _ => cases hmoves

end World

end

/-! ## What a document is told -/

namespace Document

/-- A document that was told that the error log cannot be opened: one line, and nothing pending. -/
def warned (d : Document) (path : String) : Document :=
  { d with
    console := d.console ++
      [⟨errorFore, errorBack, d.pending ++ "Cannot open error log file: " ++ path⟩]
    pending := "" }

/-- A document is warned by one line. -/
theorem tellUnopened_eq_warned (r : Reporter) (d : Document) :
    r.tellUnopened d = d.warned r.logPath := by
  rfl

/-- A document keeps the same log after it was shown a failure. -/
theorem logErrors_shownTo (r : Report Document) (d : Document) :
    (r.shownTo d).logErrors = d.logErrors := by
  have hwritten : (Reporter.writeConsole r.record d).logErrors = d.logErrors :=
    congrArg Prod.fst (Document.unseen_logging.writeConsole r.record d)
  unfold Report.shownTo
  split
  · exact hwritten
  · split <;> rfl

/-- A document with nothing pending has nothing pending after it was shown a failure. -/
theorem pending_shownTo {r : Report Document} {d : Document} (h : d.pending = "") :
    (r.shownTo d).pending = "" := by
  unfold Report.shownTo
  split
  · unfold Reporter.writeConsole
    cases r.record.line <;> rfl
  · split <;> exact h

end Document

/-- Nothing is pending on the console of the attached document, if there is one. -/
def Session.NothingPending (s : Session) : Prop :=
  ∀ d, s.around.host = some d → d.pending = ""

/-- A report leaves nothing pending. -/
theorem Report.nothingPending_made {r : Report Document} (h : r.session.NothingPending) :
    r.made.NothingPending := by
  intro d hd
  rw [r.host_made] at hd
  obtain ⟨d', hd', rfl⟩ := Option.map_eq_some_iff.mp hd
  unfold Reporter.logged
  split
  · rfl
  · exact Document.pending_shownTo (h d' hd')

/-- Nothing comes to be pending where nothing is reported. -/
theorem Session.Still.nothingPending {s t : Session} (h : s.Still Document.lasting t)
    (hs : s.NothingPending) : t.NothingPending := by
  intro d hd
  have hhost : t.around.host.map Document.lasting = s.around.host.map Document.lasting :=
    congrArg Scene.host h.scene
  rw [hd, Option.map_some] at hhost
  obtain ⟨d', hd', hsame⟩ := Option.map_eq_some_iff.mp hhost.symm
  have hpending : d'.lasting.pending = d.lasting.pending := congrArg Document.pending hsame
  change d'.pending = d.pending at hpending
  rw [← hpending]
  exact hs d' hd'

/-- Reports find nothing pending and leave nothing pending. -/
theorem Reporting.nothingPending {s t : Session} {rs : List (Report Document)}
    (h : Reporting Document.lasting s rs t) (hs : s.NothingPending) :
    (∀ r ∈ rs, r.session.NothingPending) ∧ t.NothingPending := by
  induction h with
  | quiet hstill => exact ⟨List.forall_mem_nil _, hstill.nothingPending hs⟩
  | report hstill _ ih =>
    have hsession := hstill.nothingPending hs
    obtain ⟨hrest, hend⟩ := ih (Report.nothingPending_made hsession)
    exact ⟨List.forall_mem_cons.mpr ⟨hsession, hrest⟩, hend⟩

namespace World

/-- Along a run nothing is ever pending on a console if nothing was when its document came. -/
theorem nothingPending_run {w : World} {actions : List (Action Document)}
    (hstart : w.session.NothingPending) (hattached : ∀ d, .attach d ∈ actions → d.pending = "") :
    ∀ r ∈ w.reportsIn actions, r.session.NothingPending := by
  have htrans : ∀ {s t u : Session} {rs rs' : List (Report Document)},
      (s.NothingPending → (∀ r ∈ rs, r.session.NothingPending) ∧ t.NothingPending) →
      (t.NothingPending → (∀ r ∈ rs', r.session.NothingPending) ∧ u.NothingPending) →
      s.NothingPending → (∀ r ∈ rs ++ rs', r.session.NothingPending) ∧ u.NothingPending := by
    intro s t u rs rs' hst htu hs
    obtain ⟨hfirst, ht⟩ := hst hs
    obtain ⟨hlast, hu⟩ := htu ht
    exact ⟨List.forall_mem_append.mpr ⟨hfirst, hlast⟩, hu⟩
  have hrun := (Operation.chronicle_of_reporting Document.aside_lasting htrans
    fun h => h.nothingPending).run (w := w) fun a (ha : a ∈ actions) hmoves v _ => by
      refine ⟨List.forall_mem_nil _, ?_⟩
      cases a with
      | attach d =>
        intro d' hd'
        cases hd'
        exact hattached d ha
      | detach =>
        intro d' hd'
        cases hd'
      | _ => cases hmoves
  rw [reportsIn_eq]
  exact (hrun hstart).1

end World

/-! ## Blocks -/

/-- The lines of a block: the texts of the record, and the lines of the source around the blamed
one. -/
def Document.blockLines (d : Document) (f : Failure) : List String :=
  [f.event, f.raisedBy, f.calledBy, f.description] ++ f.line.elim [] d.contextLines

/-- A block is a dated header, and then its lines. -/
theorem Document.logBlock_eq (d : Document) (f : Failure) :
    f.logBlock d = "\n\n--- Scripting error on " ++ f.date ++ " ---\n\n" ++
      String.join ((d.blockLines f).map (· ++ "\n")) := by
  unfold Failure.logBlock Document.blockLines
  rw [List.map_append, String.join_append, String.append_assoc]
  cases f.line with
  | none => rfl
  | some line => rfl

/-- The lines of a block are those that the console shows, the first of them after what is
pending. -/
theorem Document.failureLines_eq (d : Document) (f : Failure) :
    d.failureLines f = ((d.blockLines f).modifyHead (d.pending ++ ·)).map
      fun text => ⟨errorFore, errorBack, text⟩ := by
  rfl

/-- A report adds a block to the error log exactly if the attached document keeps one: the header,
dated when the failure was reported, and then on lines of their own the event, on whose behalf and
by whom the script was called, the description and the numbered lines of the source that the console
would show. -/
structure Report.IsLogged (r : Report Document) : Prop where
  unattached : r.session.around.host = none → r.block? = none
  unwanted : ∀ d, r.session.around.host = some d → d.logErrors = false → r.block? = none
  wanted : ∀ d, r.session.around.host = some d → d.logErrors = true →
    r.block? = some ("\n\n--- Scripting error on " ++
      r.reporter.clock.date r.session.around.reported ++ " ---\n\n" ++
      String.join ((d.blockLines r.record).map (· ++ "\n")))
  /-- On the console the same lines would be shown. -/
  shown : ∀ d, r.session.around.host = some d →
    (Reporter.writeConsole r.record d).console =
      d.console ++ ((d.blockLines r.record).modifyHead (d.pending ++ ·)).map
        fun text => ⟨errorFore, errorBack, text⟩

/-- The block of every report has the texts and the lines that the console would show. -/
theorem Report.isLogged (r : Report Document) : r.IsLogged := by
  have hblock : ∀ d, r.session.around.host = some d →
      r.block? = if d.logErrors then some (r.record.logBlock d) else none := by
    intro d hd
    unfold Report.block?
    rw [hd]
    rfl
  refine ⟨fun hnone => ?_, fun d hd hlog => ?_, fun d hd hlog => ?_, fun d _ => ?_⟩
  · unfold Report.block?
    rw [hnone]
    rfl
  · rw [hblock d hd, hlog, if_neg Bool.false_ne_true]
  · rw [hblock d hd, if_pos hlog, d.logBlock_eq]
    rfl
  · rw [d.console_writeConsole, d.failureLines_eq]

namespace World

variable (start : World) (actions : List (Action Document))

/-- If the error log can be opened, its bytes grow by the blocks of the reports, in their order, as
long as scripts leave it alone. All other files are as the requests of scripts leave them, and the
console is not told anything. -/
theorem error_log_grows
    (hclear : ∀ q ∈ start.requests actions, q.LeavesAlone [start.session.logPath])
    {place : FilePlace}
    (h : start.session.around.files.target? start.session.logPath = some (.file place)) :
    ((start.run actions).session.around.files.bytes? place).getD [] =
      (start.session.around.files.bytes? place).getD [] ++
        textBytes (String.join ((start.reportsIn actions).filterMap Report.block?)) ∧
    (start.session.around.files.serveAll (start.requests actions)).AgreeBut
      [start.session.logPath] (start.run actions).session.around.files ∧
    ∀ r ∈ start.reportsIn actions,
      r.made.around.host = r.session.around.host.map r.shownTo := by
  obtain ⟨requests, hasks, hkept⟩ := start.written_run Document.unseen_logging actions
  unfold World.requests at hclear ⊢
  rw [← hasks.eq_drop] at hclear ⊢
  obtain ⟨hkeeps, hduring⟩ := hkept hclear
  refine ⟨hkeeps.grown place h, hkeeps.others, fun r hr => ?_⟩
  have hopens : (r.session.around.files.openAppend r.reporter.logPath).isOk = true := by
    have htarget := (hduring r hr).trans h
    rw [reporter_of_mem_reportsIn hr]
    exact congrArg Except.isOk (FileTree.openAppend_of_leadsTo (FileTree.leadsTo_of_target htarget))
  rw [r.host_made]
  congr 1
  funext d
  unfold Reporter.logged
  rw [hopens, Bool.not_true, Bool.and_false, if_neg Bool.false_ne_true]

/-- If the error log cannot be opened, reports change no file, as long as scripts leave it alone. A
document that keeps one is told so in one line of its console, after the failure was shown, and
nothing is left pending there. -/
theorem unopened_error_log_is_told
    (hclear : ∀ q ∈ start.requests actions, q.LeavesAlone [start.session.logPath])
    (h : start.session.around.files.target? start.session.logPath = none) :
    (start.run actions).session.around.files =
      start.session.around.files.serveAll (start.requests actions) ∧
    ∀ r ∈ start.reportsIn actions,
      r.made.around.host = r.session.around.host.map fun d =>
        if d.logErrors then (r.shownTo d).warned start.session.logPath else r.shownTo d := by
  obtain ⟨requests, hasks, hkept⟩ := start.written_run Document.unseen_logging actions
  unfold World.requests at hclear ⊢
  rw [← hasks.eq_drop] at hclear ⊢
  obtain ⟨hkeeps, hduring⟩ := hkept hclear
  refine ⟨hkeeps.unopened h, fun r hr => ?_⟩
  have hreporter := reporter_of_mem_reportsIn hr
  have hopens : (r.session.around.files.openAppend r.reporter.logPath).isOk = false := by
    have htarget := (hduring r hr).trans h
    unfold FileTree.target? at htarget
    rw [hreporter]
    cases hopen : r.session.around.files.openAppend start.session.logPath with
    | error e => exact congrArg Except.isOk hopen
    | ok opened =>
      rw [hopen] at htarget
      cases htarget
  rw [r.host_made]
  congr 1
  funext d
  have hkeeps : Host.logErrors (r.shownTo d) = d.logErrors := Document.logErrors_shownTo r d
  have hpath : r.reporter.logPath = start.session.logPath := congrArg Reporter.logPath hreporter
  unfold Reporter.logged
  rw [hkeeps, hopens, Document.tellUnopened_eq_warned, hpath]
  cases d.logErrors <;> rfl

/-- A source that fails, for a document that keeps an error log in a file without a name: the
failure is shown in a dialog, and one line of the console tells of the file. -/
example :
    let document : Document := { Document.new "world" with logErrors := true }
    let reporter : Reporter := ⟨.dialog fun _ => false, "", "today"⟩
    let engine : Engine :=
      { Engine.new ⟨none, "", "", true, false⟩ ⟨Library.all.map (·, .nothing), []⟩ .log "" with
        reporter }
    let start : World := ⟨.new engine (some document), fun _ => .fresh⟩
    let after := start.run [.openEngine, .execute [.run (.call .nil [])] "Script file"]
    after.session.around.dialogs.length = 1 ∧
    after.session.around.host.map Document.console =
      some [⟨errorFore, errorBack, "Cannot open error log file: "⟩] := by
  decide +kernel

/-- The error log of a run in which scripts leave it alone. If it can be opened, it holds what it
held at the start and then one block for each failure that was reported while a document was
attached that keeps it, in the order of the failures and whichever way each was shown; all other
files are as the requests of scripts leave them. If it cannot be opened, the files are all as these
requests leave them, and the documents are told so in one line for each failure, which begins with
what was pending, so with nothing if nothing is. In either case everything else is as it is without
an error log: the replies, the records, the tokens, and the sessions but for the error log, the log
and the consoles. -/
theorem error_log_is_complete_and_harmless
    (hclear : ∀ q ∈ start.requests actions, q.LeavesAlone [start.session.logPath]) :
    (∀ place,
      start.session.around.files.target? start.session.logPath = some (.file place) →
      ((start.run actions).session.around.files.bytes? place).getD [] =
        (start.session.around.files.bytes? place).getD [] ++
          textBytes (String.join ((start.reportsIn actions).filterMap Report.block?)) ∧
      (start.session.around.files.serveAll (start.requests actions)).AgreeBut
        [start.session.logPath] (start.run actions).session.around.files ∧
      ∀ r ∈ start.reportsIn actions,
        r.made.around.host = r.session.around.host.map r.shownTo) ∧
    (∀ r ∈ start.reportsIn actions, r.IsLogged) ∧
    (start.session.around.files.target? start.session.logPath = none →
      (start.run actions).session.around.files =
        start.session.around.files.serveAll (start.requests actions) ∧
      ∀ r ∈ start.reportsIn actions,
        r.made.around.host = r.session.around.host.map fun d =>
          if d.logErrors then (r.shownTo d).warned start.session.logPath else r.shownTo d) ∧
    (start.session.NothingPending → (∀ d, .attach d ∈ actions → d.pending = "") →
      ∀ r ∈ start.reportsIn actions, ∀ d, r.session.around.host = some d →
        (r.shownTo d).pending = "") ∧
    start.replies actions = start.silent.replies (actions.map (Action.map Document.silent)) ∧
    (start.reportsIn actions).map Report.record =
      (start.silent.reportsIn (actions.map (Action.map Document.silent))).map Report.record ∧
    (start.run actions).tokens =
      (start.silent.run (actions.map (Action.map Document.silent))).tokens ∧
    (start.run actions).session.SameButLogging [start.session.logPath]
      (start.silent.run (actions.map (Action.map Document.silent))).session := by
  have hpaired : Paired (Session.SameButLogging [start.session.logPath]) start start.silent :=
    paired_silent (List.mem_singleton_self _)
  obtain ⟨hreplies, hrecords, hend⟩ := (run_silent hpaired actions).elim hclear
  refine ⟨fun _ h => start.error_log_grows actions hclear h, fun r _ => r.isLogged,
    fun h => start.unopened_error_log_is_told actions hclear h, ?_, hreplies, hrecords, hend.tokens,
    hend.session⟩
  intro hstart hattached r hr d hd
  exact Document.pending_shownTo (nothingPending_run hstart hattached r hr d hd)

/-- A new engine for a document that keeps an error log, with a file for it that holds a text. Its
machines get none of the libraries. -/
def keeping : World :=
  let document : Document := { Document.new "world" with logErrors := true }
  ⟨{ engine := .new ⟨none, "", "log", true, false⟩ ⟨Library.all.map (·, .nothing), []⟩ .log "today"
     index := .empty
     around := { Surroundings.fresh (some document) with
       files := FileTree.fresh.put (.ofPath (textBytes "log")) (textBytes "old") } },
    fun _ => .fresh⟩

/-- A call of `io.open` for a path with a mode, and a method of the file with a text. -/
def onFile (path mode method text : String) : Step :=
  .run (.method
    (.call (.field (.global (textBytes "io")) (.string (textBytes "open")))
      [.string (textBytes path), .string (textBytes mode)])
    (textBytes method) [.string (textBytes text)])

/-- The engine is opened, and a source is run that makes a file and then calls a missing
function. -/
def failingActions : List (Action Document) :=
  [.openEngine, .execute
    [onFile "notes" "w" "write" "new", .run (.call (.global (textBytes "g")) [])] "Script file"]

/-- After one failure the error log holds the old text and one block, beside a file that the script
has made. -/
theorem error_log_is_complete_and_harmless_keeping :
    (∀ q ∈ keeping.requests failingActions, q.LeavesAlone [keeping.session.logPath]) ∧
    (keeping.requests failingActions).length = 2 ∧
    ((keeping.reportsIn failingActions).filterMap Report.block?).length = 1 ∧
    ((keeping.run failingActions).session.around.files.bytes? (.ofPath (textBytes "log"))).getD [] =
      textBytes "old" ++
        textBytes (String.join ((keeping.reportsIn failingActions).filterMap Report.block?)) := by
  have hclear :
      ∀ q ∈ keeping.requests failingActions, q.LeavesAlone [keeping.session.logPath] := by
    decide +kernel
  have hrequests : (keeping.requests failingActions).length = 2 := by
    decide +kernel
  have hlength : ((keeping.reportsIn failingActions).filterMap Report.block?).length = 1 := by
    decide +kernel
  have htarget : keeping.session.around.files.target? keeping.session.logPath =
      some (.file (.ofPath (textBytes "log"))) := by
    decide +kernel
  have hold : (keeping.session.around.files.bytes? (.ofPath (textBytes "log"))).getD [] =
      textBytes "old" := by
    decide +kernel
  obtain ⟨hgrows, -⟩ := error_log_is_complete_and_harmless keeping failingActions hclear
  obtain ⟨hbytes, -⟩ := hgrows _ htarget
  rw [hold] at hbytes
  exact ⟨hclear, hrequests, hlength, hbytes⟩

/-- The engine is opened, and a source is run that writes to the error log. -/
def forgingActions : List (Action Document) :=
  [.openEngine, .execute [onFile "log" "a" "write" "forged"] "Script file"]

/-- A script can forge the error log: the file grows, and no failure was reported. -/
theorem error_log_can_be_forged :
    keeping.session.around.files.target? keeping.session.logPath =
      some (.file (.ofPath (textBytes "log"))) ∧
    ((keeping.reportsIn forgingActions).filterMap Report.block?).length = 0 ∧
    ((keeping.run forgingActions).session.around.files.bytes? (.ofPath (textBytes "log"))).getD [] =
      (keeping.session.around.files.bytes? (.ofPath (textBytes "log"))).getD [] ++
        textBytes "forged" := by
  decide +kernel

end World

end EventScripts
