import EventScripts.Proofs.ErrorLines
import EventScripts.Proofs.FailureRecords

/-!
# Failures blame the line at which they happened

The machine puts a position in front of the messages of its own refusals, and in front of a text
that a script raises at some level. If this is the position of a line in an editable chunk, and the
error reaches the host's protected call, the record of the failure has this line. On the way the
message may get a trace, which cuts it at its first NUL byte, and becomes a text; the position
survives both.

The same holds of the position of a fault that keeps an editable source from being loaded.
-/

set_option autoImplicit false

namespace EventScripts

namespace Script

/-! ## Errors with a position in front -/

/-- The frame at a level of a site is at a line of an editable chunk. -/
def Site.EndsIn (site : Site) (level n : Nat) : Prop :=
  0 < level ∧ ∃ label ∈ editableLabels,
    site.trail[level - 1]? = some (some ⟨chunkId (textBytes label), n⟩)

/-- In a frame of an editable chunk, a call or an access is at its line. -/
theorem Frame.endsIn_site {fr : Frame} {label : String} (hlabel : label ∈ editableLabels)
    (hchunk : fr.chunk = chunkId (textBytes label)) (line : Nat) (naming : Option Naming) :
    (fr.site line naming).EndsIn 1 line := by
  refine ⟨Nat.one_pos, label, hlabel, ?_⟩
  unfold site
  rw [hchunk]
  rfl

/-- An error value is a text in front of which the machine put the position of a line in an editable
chunk. -/
def Blames (n : Nat) (e : Value) : Prop :=
  ∃ (site : Site) (level : Nat) (message : Bytes),
    site.EndsIn level n ∧ e = .string (site.position level ++ message)

/-- The position at a level that ends in an editable chunk names this chunk and its line. -/
theorem Site.EndsIn.position_eq {site : Site} {level n : Nat} (h : site.EndsIn level n) :
    ∃ label ∈ editableLabels,
      site.position level = positionText (chunkId (textBytes label)) n := by
  obtain ⟨hlevel, label, hlabel, hplace⟩ := h
  obtain ⟨below, rfl⟩ := Nat.exists_eq_succ_of_ne_zero (Nat.ne_of_gt hlevel)
  refine ⟨label, hlabel, ?_⟩
  rw [Nat.succ_sub_one] at hplace
  unfold position
  dsimp only
  rw [hplace]

/-- The machine's own refusals blame the line of the innermost frame. -/
theorem blames_of_refuse {α : Type} {site : Site} {n : Nat} (h : site.EndsIn 1 n)
    (action : String) (v : Value) (naming : Option Naming) (vm : Vm) :
    ∃ e, Machine.run (Machine.refuse site action v naming : Machine α) vm = (.error e, vm) ∧
      Blames n e := by
  have hrefused : ∃ message, Machine.run (Machine.refuse site action v naming : Machine α) vm =
      (.error (.string (site.position 1 ++ message)), vm) :=
    Machine.run_refuse site action v naming vm
  obtain ⟨message, hrun⟩ := hrefused
  exact ⟨_, hrun, site, 1, message, h, rfl⟩

/-- A text that a script raises blames the line of the frame at the level. -/
theorem blames_of_raiseError {site : Site} {n : Nat} {level : Int64} {args : List Value}
    {s : Bytes} {vm : Vm} (h : site.EndsIn level.toInt.toNat n)
    (hlevel : Machine.run (integerArgumentOr site "error" 2 args 1) vm = (.ok level, vm))
    (htext : Value.head args = .string s) :
    ∃ e, Machine.run (raiseError site args) vm = (.error e, vm) ∧ Blames n e := by
  have hpositive : 0 < level := by
    have hint : 0 < level.toInt := by
      have hlevel := h.1
      omega
    exact Int64.lt_iff_toInt_lt.mpr hint
  refine ⟨.string (site.position level.toInt.toNat ++ s), ?_, site, _, s, h, rfl⟩
  unfold raiseError
  rw [Machine.run_bind_of_ok hlevel, htext]
  dsimp only
  rw [if_pos hpositive, Machine.run_throw]

/-! ## From the error to the text of the failure -/

/-- When a call of the host starts, `debug.traceback` is the machine's own or no function. -/
def OwnTraces (vm : Vm) : Prop :=
  ∀ handler, (Machine.run (lookupFunction "debug.traceback") vm).1 = .ok (some handler) →
    handler.basic? = some .traceback

/-- An error is shown as itself or as its message with a trace. -/
theorem OwnTraces.shown {vm : Vm} (h : OwnTraces vm) {e shown : Value}
    (hshows : Invoker.Shows vm e shown) :
    shown = e ∨ shown = Value.head (tracedMessage [e]) := by
  unfold Invoker.Shows at hshows
  split at hshows
  · rename_i handler hhandler
    exact .inr (hshows (h handler hhandler))
  · exact .inl hshows

/-- The text of a failure blames the line that its error blames, with or without a trace. -/
theorem Blames.errorLine?_shown {n : Nat} {e shown : Value} (h : Blames n e) (hn : n < UInt32.size)
    (hshown : shown = e ∨ shown = Value.head (tracedMessage [e])) :
    errorLine? (describeError (some shown)) = some n := by
  obtain ⟨site, level, message, hends, rfl⟩ := h
  obtain ⟨label, hlabel, hposition⟩ := hends.position_eq
  rw [hposition] at hshown
  rcases hshown with rfl | rfl
  · exact errorLine?_positionText hlabel hn message
  · have htraced : Value.head (tracedMessage
        [.string (positionText (chunkId (textBytes label)) n ++ message)]) =
          .string (positionText (chunkId (textBytes label)) n ++
            (message.untilNul ++ (textBytes "\n" ++ textBytes traceMark))) := by
      show Value.string (Bytes.untilNul (_ ++ message) ++ _ ++ _) = _
      rw [untilNul_positionText hlabel, List.append_assoc, List.append_assoc]
    rw [htraced]
    exact errorLine?_positionText hlabel hn _

/-- The line at which a source is found not to load. -/
def LoadError.line : LoadError → Nat
  | .nulInLabel _ => 0
  | .fault _ f line => f.noticedAt line

/-- The message of an editable source that does not load blames the line of the fault. -/
theorem errorLine?_load {label : String} {source : List Step} {e : LoadError}
    (hlabel : label ∈ editableLabels) (h : load (textBytes label) source = .error e)
    (hn : e.line < UInt32.size) : errorLine? e.message = some e.line := by
  have hwhole : ∀ label ∈ editableLabels, (textBytes label).nul? = none := by
    decide
  unfold load at h
  rw [hwhole label hlabel] at h
  dsimp only at h
  split at h
  · cases h
    exact errorLine?_positionText hlabel hn _
  · cases h

end Script

open Script

variable {H : Type} [Host H]

namespace World

/-! ## Actions that fail at a line -/

/-- An action makes the host call a function with arguments; the call starts in this machine. -/
inductive Calls (w : World H) : Action H → Function → List Value → Vm → Prop where
  | source {live : Live} {source : List Step} {label : String} {code : Code} :
      w.session.engine.live = some live → load (textBytes label) source = .ok code →
      Calls w (.execute source label) ⟨live.vm.nextId, .script code⟩ []
        { live.vm.among w.session.around.files with nextId := live.vm.nextId + 1 }
  | site {live : Live} {a : Action H} {c : SiteCall} {f : Function} {args : List Value}
      {vm vm' : Vm} :
      a.call? = some c → w.session.engine.live = some live →
      ((w.tokens c.site).sync w.session.engine.generation).isBroken = false →
      Machine.run (lookupFunction c.request.procedure) (live.vm.among w.session.around.files) =
        (.ok (some f), vm) →
      Machine.run c.arguments (vm.among vm.files) = (.ok args, vm') →
      Calls w a f args vm'

/-- An action fails at a line of an editable chunk: its source does not load, or an error that
blames the line reaches the protected call in which the host calls a function. -/
inductive FailsAt (w : World H) (n : Nat) : Action H → Prop where
  | load {live : Live} {source : List Step} {label : String} {e : LoadError} :
      w.session.engine.live = some live → label ∈ editableLabels →
      Script.load (textBytes label) source = .error e → e.line = n →
      FailsAt w n (.execute source label)
  | call {a : Action H} {f : Function} {args : List Value} {vm vm' : Vm} {e : Value} :
      w.Calls a f args vm → OwnTraces vm →
      Machine.run (protectedRun f args) (Invoker.begun vm) = (.error e, vm') → Blames n e →
      FailsAt w n a

variable {w : World H}

/-- If a call of the host gives the text of an error, the action fails with that text. -/
theorem Calls.failure?_eq {a : Action H} {f : Function} {args : List Value} {vm vm' : Vm}
    {text : String} (h : w.Calls a f args vm) {live : Live}
    (hlive : w.session.engine.live = some live)
    (hcall : Machine.run (live.invoker.call f args) vm = (.ok (.error text), vm')) :
    w.failure? a = some text := by
  cases h with
  | source hlive' hload =>
    cases hlive.symm.trans hlive'
    rename_i source label code
    obtain ⟨m, hmade, hrun⟩ := Operation.exists_callCode_eq (H := H) live code
    have hcode : ∀ f, (w.session.after (Operation.count f)).answer (Operation.callCode live code) =
        .error text := by
      intro f
      rw [hmade]
      exact Operation.answer_runProtected ((hrun _).trans hcall)
    show failureText? (w.session.answer (Operation.execute source label)) = some text
    unfold Operation.execute
    rw [Session.answer_bind, Session.answer_get, Session.after_get, hlive]
    dsimp only
    unfold Operation.runSource
    rw [hload]
    dsimp only
    rw [Session.answer_bind, Session.answer_bind, hcode]
    rfl
  | site hc hlive' hb hfound harguments =>
    cases hlive.symm.trans hlive'
    rename_i c vm₁
    have hscoped : w.session.answer (Operation.scopedRun live c.request c.arguments) =
        .failed text := by
      rw [Operation.answer_scopedRun, Operation.siteRun_of_meets ⟨_, hfound, harguments⟩, hcall]
      rfl
    rw [failure?_of_call hc]
    unfold callOf
    rw [(Operation.callSite_of_open c.request c.arguments c.counter hlive hb).2,
      Operation.answer_concludeSite, hscoped]
    rfl

/-- An action that fails at a line of an editable chunk has a text that blames this line. -/
theorem FailsAt.exists_failure {n : Nat} {a : Action H} (h : w.FailsAt n a) (hn : n < UInt32.size)
    (hgenuine : ∀ live, w.session.engine.live = some live → live.invoker.Genuine) :
    ∃ text, w.failure? a = some text ∧ errorLine? text = some n := by
  cases h with
  | load hlive hlabel hload hline =>
    subst hline
    rename_i live source label e
    refine ⟨e.message, ?_, errorLine?_load hlabel hload hn⟩
    show failureText? (w.session.answer (Operation.execute source label)) = some e.message
    unfold Operation.execute
    rw [Session.answer_bind, Session.answer_get, Session.after_get, hlive]
    dsimp only
    unfold Operation.runSource
    rw [hload]
    rfl
  | call hcalls htraces hrun hblames =>
    rename_i f args vm vm' e
    have hlive : ∃ live, w.session.engine.live = some live := by
      cases hcalls with
      | source hlive _ => exact ⟨_, hlive⟩
      | site _ hlive _ _ _ => exact ⟨_, hlive⟩
    obtain ⟨live, hlive⟩ := hlive
    obtain ⟨shown, vm'', hshows, hcall⟩ :=
      (Invoker.run_call_of_genuine (hgenuine live hlive) f args vm).2 e vm' hrun
    exact ⟨_, hcalls.failure?_eq hlive hcall,
      hblames.errorLine?_shown hn (htraces.shown hshows)⟩

/-- Failures blame the line at which they happened. The machine's own refusals, and the texts that a
script raises at a level, blame the line of the frame of that level if it is one of an editable
chunk. An action that fails at a line of such a chunk is recorded with this line, and the host is
told to show exactly this line if it wants errors on its console; it is assumed that the functions
for protected calls are the machine's own. A failure whose text has the beginning of no editable
chunk is recorded without a line, whatever reports it, and no line is shown. -/
theorem failures_blame_their_lines (w : World H) (shown : H → List Nat)
    (hshown : ShowsLines shown)
    (hgenuine : ∀ live, w.session.engine.live = some live → live.invoker.Genuine) :
    (∀ (α : Type) (site : Site) (n : Nat) action v naming vm, site.EndsIn 1 n →
      ∃ e, Machine.run (Machine.refuse site action v naming : Machine α) vm = (.error e, vm) ∧
        Blames n e) ∧
    (∀ (site : Site) (n : Nat) (level : Int64) (args : List Value) (s : Bytes) vm,
      site.EndsIn level.toInt.toNat n → Value.head args = .string s →
      Machine.run (integerArgumentOr site "error" 2 args 1) vm = (.ok level, vm) →
      ∃ e, Machine.run (raiseError site args) vm = (.error e, vm) ∧ Blames n e) ∧
    (∀ a n, n < UInt32.size → w.FailsAt n a → w.Records shown a (some n)) ∧
    (∀ a text, w.failure? a = some text →
      (∀ start ∈ editableChunks, ¬ start.toList <+: text.toList) → w.Records shown a none) ∧
    (∀ (s : Session H) event context text,
      (∀ start ∈ editableChunks, ¬ start.toList <+: text.toList) →
      (s.engine.reporter.report event context text s.around).1.line = none ∧
        (s.after (Operation.report event context text)).around.host.map shown =
          s.around.host.map shown) := by
  refine ⟨?_, ?_, ?_, ?_, ?_⟩
  · intro α site n action v naming vm hends
    exact blames_of_refuse hends action v naming vm
  · intro site n level args s vm hends htext hlevel
    exact blames_of_raiseError hends hlevel htext
  · intro a n hn hfails
    obtain ⟨text, htext, hline⟩ := hfails.exists_failure hn hgenuine
    rw [← hline]
    exact records_of_failure hshown htext
  · intro a text htext hneither
    rw [← errorLine?_eq_none_iff.mpr hneither]
    exact records_of_failure hshown htext
  · intro s event context text hneither
    have hnone : errorLine? text = none := errorLine?_eq_none_iff.mpr hneither
    refine ⟨hnone, ?_⟩
    have hreport := hshown.report s.engine.reporter event context text s.around
    rw [hnone] at hreport
    refine hreport.trans ?_
    simp only [Option.toList_none, ite_self, List.append_nil]

/-- An engine with a new machine, and a document that wants errors on its console. -/
def consoled : World where
  session :=
    { engine :=
        { Engine.new .default .none .log "" with
          live := some ⟨Vm.fresh, ⟨114, .native (.basic .xpcall)⟩, ⟨103, .native (.basic .pcall)⟩⟩
          generation := 1 }
      index := .empty
      around := .fresh (some { Document.new "W" with errorsToOutput := true }) }
  tokens _ := .fresh

/-- A plugin that raises a text on its third line: a digit, a NUL byte and a byte that is no
character. -/
def raising : List Step :=
  [.blank 2, .run (.call (.global (textBytes "error")) [.string [0x31, 0x00, 0xFF]])]

/-- The plugin fails at its third line, and this line is shown. -/
theorem failures_blame_their_lines_consoled :
    (consoled.after (.execute raising "Plugin")).session.around.host.map Document.highlighted =
      some [3] := by
  have hgenuine : ∀ live, consoled.session.engine.live = some live → live.invoker.Genuine := by
    intro live hlive
    cases hlive
    exact ⟨rfl, rfl⟩
  have hfails : consoled.FailsAt 3 (.execute raising "Plugin") := by
    let fr : Frame := ⟨chunkId (textBytes "Plugin"), [], Site.outside.inner.trail, 2⟩
    have hlabel : "Plugin" ∈ editableLabels := by decide
    have hends : (fr.site 3 none).EndsIn 1 3 := Frame.endsIn_site hlabel rfl 3 none
    refine .call (.source rfl rfl) ?_ rfl ⟨_, 1, [0x31, 0x00, 0xFF], hends, rfl⟩
    intro handler hhandler
    cases hhandler
    rfl
  obtain ⟨-, -, hrecords, -, -⟩ :=
    failures_blame_their_lines consoled Document.highlighted Document.showsLines hgenuine
  exact (hrecords _ 3 (by decide) hfails).shown

end World

end EventScripts
