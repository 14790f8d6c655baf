import EventScripts.Proofs.LibraryOpening
import EventScripts.Proofs.ModuleRequests
import EventScripts.Proofs.NativeLockdown

/-!
# Openings leave preloads closed

Preloads are installed at the end of an opening, after the lockdown of native modules. Where the
host and the openers of libraries have left in place what a request for a preload reads, this puts
loaders into the table of preloads, for each name that of the last opener given, and does nothing
else; no opener of a preload runs. From then on a preload is opened on request. Every opening begins
with a new machine, so what an earlier machine had opened counts for nothing in the next one.
-/

set_option autoImplicit false

namespace EventScripts

namespace Script

/-- The package and the preloads stand where they are looked for, without metatables, and the first
searcher, in a list of its own, is the one that asks the preloads. All other fields of the package,
other preloads and other searchers may be anything. -/
structure Vm.FindsPreloads (vm : Vm) : Prop where
  global : (vm.table globals).get (.text "package") = .table package
  packagePlain : (vm.table package).metatable = none
  preload : (vm.table package).get (.text "preload") = .table Vm.preload
  preloadPlain : (vm.table Vm.preload).metatable = none
  searchers : ∃ list vs, (vm.table package).get (.text "searchers") = .table list ∧
    list ≠ Vm.preload ∧ (vm.table list).Lists vs ∧
    ∃ f : Function, vs.head? = some (.function f) ∧ f.body = .native (.basic .searchPreload)

/-- A new machine finds preloads. -/
theorem Vm.findsPreloads_fresh : fresh.FindsPreloads where
  global := rfl
  packagePlain := rfl
  preload := rfl
  preloadPlain := rfl
  searchers :=
    ⟨Stock.searchersRef, _, rfl, by decide, Operation.lists_stockSearchers, _, rfl, rfl⟩

/-- Preloads are found still in a machine that agrees on what a request for one reads. -/
theorem Vm.FindsPreloads.of_agree {vm vm' : Vm} {kept : Nat → Key → Prop} (h : vm.FindsPreloads)
    (hagree : vm.Agree kept vm') (hglobal : kept globals (.text "package"))
    (hpreload : kept package (.text "preload")) (hsearchers : kept package (.text "searchers"))
    (hlist : ∀ list i, kept list (.integer i)) : vm'.FindsPreloads where
  global := (hagree.get hglobal).trans h.global
  packagePlain := (hagree.metatable _).trans h.packagePlain
  preload := (hagree.get hpreload).trans h.preload
  preloadPlain := (hagree.metatable _).trans h.preloadPlain
  searchers := by
    obtain ⟨list, vs, hsame, hown, hlists, hfirst⟩ := h.searchers
    exact ⟨list, vs, (hagree.get hsearchers).trans hsame, hown,
      hlists.of_agree hagree (hlist list), hfirst⟩

/-- Only the tables of a machine count for that. -/
theorem Vm.FindsPreloads.of_tables {vm vm' : Vm} (h : vm.FindsPreloads)
    (hsame : vm'.tables = vm.tables) : vm'.FindsPreloads := by
  have hagree : vm.Agree (fun _ _ => True) vm' := .of_tables hsame
  exact h.of_agree hagree trivial trivial trivial fun _ _ => trivial

/-- The other fields of the package, its path for example, may be set to anything. -/
theorem Vm.FindsPreloads.setField {vm : Vm} (h : vm.FindsPreloads) {name : String}
    (hpreload : name ≠ "preload") (hsearchers : name ≠ "searchers") (v : Value) :
    (vm.write package (.text name) v).FindsPreloads := by
  have hother : ∀ {other : String}, name ≠ other → ¬ ((package = package) ∧
      Key.text other = Key.text name) := by
    rintro other hne ⟨-, hkey⟩
    exact hne (textBytes_inj (Key.string.inj hkey)).symm
  have hagree : vm.Agree (fun ref k => ¬ (ref = package ∧ k = .text name))
      (vm.write package (.text name) v) :=
    .write (fun hkept => hkept ⟨rfl, rfl⟩) vm v
  exact h.of_agree hagree (fun hkept => absurd hkept.1 (by decide)) (hother hpreload)
    (hother hsearchers) fun _ _ => nofun

/-- Where the first values of a list are kept, its first value is read under the number one. -/
theorem Table.Lists.get_one {t : Table} {vs : List Value} (h : t.Lists vs) {v : Value}
    (hv : vs.head? = some v) : t.get (.integer 1) = v := by
  have hunder := h.under 0 (by decide)
  rw [← List.head?_eq_getElem?, hv] at hunder
  rw [Table.get_eq_under?]
  exact congrArg (·.getD .nil) hunder

/-- The lockdown takes two fields of the package and two searchers, none of them the first, and
leaves all else as it is. -/
theorem Vm.FindsPreloads.lockdown {vm locked : Vm} (h : vm.FindsPreloads) {allowed : Bool}
    (hrun : Machine.run (lockNativeModules allowed) vm = (.ok (), locked)) :
    vm.Agree (besideLock Vm.package) locked ∧
    (∀ list, (vm.table Vm.package).get (.text "searchers") = .table list →
      vm.Agree (fun ref _ => ref ≠ Vm.package ∧ ref ≠ list) locked) ∧
    locked.FindsPreloads := by
  cases allowed with
  | true =>
    cases hrun
    exact ⟨.refl vm, fun _ _ => .refl vm, h⟩
  | false =>
    have hlocked : vm.Locked Vm.package locked := locked_of_run h.packagePlain h.global hrun
    have hnamed : ∀ {ref : Nat} {name : String}, name ≠ "loadlib" → name ≠ "cpath" →
        (locked.table ref).get (.text name) = (vm.table ref).get (.text name) := by
      intro ref name hloadlib hcpath
      refine hlocked.agree.get ⟨fun _ => nofun, fun hlost => ?_⟩
      rcases hlost.2 with hkey | hkey
      · exact hloadlib (textBytes_inj (Key.string.inj hkey))
      · exact hcpath (textBytes_inj (Key.string.inj hkey))
    refine ⟨hlocked.agree, hlocked.tables, ?_, ?_, ?_, ?_, ?_⟩
    · rw [hnamed (by decide) (by decide)]
      exact h.global
    · rw [hlocked.agree.metatable]
      exact h.packagePlain
    · rw [hnamed (by decide) (by decide)]
      exact h.preload
    · rw [hlocked.agree.metatable]
      exact h.preloadPlain
    · obtain ⟨list, vs, hsearchers, hown, hlists, f, hfirst, hbody⟩ := h.searchers
      refine ⟨list, _, ?_, hown, hlocked.searchers list vs hsearchers hlists, f, ?_, hbody⟩
      · rw [hnamed (by decide) (by decide)]
        exact hsearchers
      · cases vs with
        | nil => cases hfirst
        | cons v vs => exact hfirst

/-! ## Installing the loaders -/

/-- Loaders are put into a table without a metatable: for each name that of the last opener. -/
theorem run_installEach {q : Nat} (given : List (String × Opener)) {vm : Vm}
    (hplain : (vm.table q).metatable = none) (hsize : q < vm.tables.size) :
    ∃ vm', Machine.run (Selection.installEach (.table q) given) vm = (.ok (), vm') ∧
      vm.Agree (fun ref _ => ref ≠ q) vm' ∧
      (∀ name opener, LastGiven given name opener →
        ∃ f : Function, (vm'.table q).get (.text name) = .function f ∧
          f.body = .native (.loader (textBytes name) opener)) ∧
      ∀ k, (∀ name opener, (name, opener) ∈ given → k ≠ .text name) →
        (vm'.table q).get k = (vm.table q).get k := by
  induction given generalizing vm with
  | nil =>
    refine ⟨vm, rfl, .refl vm, ?_, fun _ _ => rfl⟩
    rintro name opener ⟨before, after, hnil, -⟩
    simp at hnil
  | cons p rest ih =>
    obtain ⟨name, opener⟩ := p
    let f : Function := ⟨vm.nextId, .native (.loader (textBytes name) opener)⟩
    let numbered : Vm := { vm with nextId := vm.nextId + 1 }
    let written : Vm := numbered.write q (.text name) (.function f)
    have hnumbered : (numbered.table q).metatable = none := hplain
    have hset : Machine.run (Machine.setIndex invoke .outside none (.table q) (.text name)
        (.function f)) numbered = (.ok (), written) :=
      Machine.run_setIndex_of_plain hnumbered rfl invoke .outside none _
    have hwritten : (written.table q).metatable = none :=
      (numbered.metatable_write q q _ _).trans hnumbered
    have hsize' : q < written.tables.size := by
      rw [numbered.size_write]
      exact hsize
    obtain ⟨vm', hrun, hagree, hlast, hother⟩ := ih hwritten hsize'
    have hhere : (written.table q).get (.text name) = .function f := by
      rw [Vm.table_write, if_pos ⟨rfl, hsize⟩, Table.get_set, if_pos rfl]
    have hcounted : vm.Agree (fun ref _ => ref ≠ q) numbered := .of_tables rfl
    have hput : numbered.Agree (fun ref _ => ref ≠ q) written := .write (fun hne => hne rfl) _ _
    refine ⟨vm', ?_, (hcounted.trans hput).trans hagree, ?_, ?_⟩
    · unfold Selection.installEach
      exact (Machine.run_bind_of_ok rfl _).trans ((Machine.run_bind_of_ok hset _).trans hrun)
    · rintro other o ⟨before, after, hgiven, hafter⟩
      cases before with
      | nil =>
        -- The first opener is the last one for its name, so the rest leaves its loader in place.
        cases hgiven
        refine ⟨f, ?_, rfl⟩
        rw [hother _ fun name' o' hmem hkey => ?_, hhere]
        rw [textBytes_inj (Key.string.inj hkey)] at hafter
        exact hafter o' hmem
      | cons b before =>
        cases hgiven
        exact hlast other o ⟨before, after, rfl, hafter⟩
    · intro k hk
      rw [hother k fun name' o' hmem => hk name' o' (List.mem_cons_of_mem _ hmem)]
      exact numbered.get_write_of_ne
        (fun _ => (hk name opener List.mem_cons_self).symm) _

/-- The preloads are installed in the table where requests look for them. -/
theorem Vm.FindsPreloads.run_installPreloads {vm : Vm} (h : vm.FindsPreloads) (s : Selection) :
    Machine.run s.installPreloads vm =
      Machine.run (Selection.installEach (.table Vm.preload) s.preloads) vm := by
  have hpackage : Machine.run (tryCatch (getGlobal invoke .outside (textBytes "package"))
      fun _ => pure .nil) vm = (.ok (.table Vm.package), vm) := by
    have hread : Machine.run (getGlobal invoke .outside (textBytes "package")) vm =
        (.ok (.table Vm.package), vm) :=
      Machine.run_index_of_present rfl h.global (by simp) _ _ _
    rw [Machine.run_tryCatch, hread]
  have hpreload : Machine.run (Machine.index invoke .outside none (.table Vm.package)
      (.text "preload")) vm = (.ok (.table Vm.preload), vm) :=
    Machine.run_index_of_present rfl h.preload (by simp) _ _ _
  unfold Selection.installPreloads
  rw [Machine.run_bind_of_ok hpackage]
  exact Machine.run_bind_of_ok hpreload _

/-- What an opening adds to a machine by its preloads. -/
structure InstallsOnly (given : List (String × Opener)) (vm installed : Vm) : Prop where
  /-- All but the package, its searchers and the table of preloads is as before: no opener of a
  preload has run. -/
  agree : ∀ list, (vm.table Vm.package).get (.text "searchers") = .table list →
    vm.Agree (fun ref _ => ref ≠ Vm.preload ∧ ref ≠ Vm.package ∧ ref ≠ list) installed
  /-- Each name has the opener that was given last for it. -/
  last : ∀ name opener, LastGiven given name opener →
    (installed.moduleState (textBytes name)).Preloads (textBytes name) opener
  /-- It is opened on request, if no module of the name is known. -/
  onRequest : ∀ name opener, LastGiven given name opener →
    (vm.table Vm.loaded).get (.text name) = .nil → OpensOnRequest (textBytes name) opener installed
  /-- No other preloads are added. -/
  others : ∀ k, (∀ name opener, (name, opener) ∈ given → k ≠ .text name) →
    (installed.table Vm.preload).get k = (vm.table Vm.preload).get k

/-- After the lockdown, the installation of the preloads adds their loaders. -/
theorem Vm.FindsPreloads.installs {vm locked installed : Vm} (h : vm.FindsPreloads)
    {allowed : Bool} {s : Selection}
    (hlock : Machine.run (lockNativeModules allowed) vm = (.ok (), locked))
    (hinstall : Machine.run s.installPreloads locked = (.ok (), installed)) :
    InstallsOnly s.preloads vm installed := by
  obtain ⟨hkept, htables, hlocked⟩ := h.lockdown hlock
  obtain ⟨list, vs, hsearchers, hown, -⟩ := h.searchers
  obtain ⟨list', vs', hsearchers', hown', hlists, f, hfirst, hbody⟩ := hlocked.searchers
  have hsize : Vm.preload < locked.tables.size := by
    have hpresent : (locked.table Vm.package).get (.text "searchers") ≠ .nil := by
      rw [hsearchers']
      nofun
    exact Nat.lt_trans (by decide) (lt_size_of_get hpresent)
  obtain ⟨vm', hrun, hagree, hlast, hothers⟩ :=
    run_installEach s.preloads hlocked.preloadPlain hsize
  rw [hlocked.run_installPreloads, hrun] at hinstall
  cases hinstall
  have hpreloads : ∀ name opener, LastGiven s.preloads name opener →
      (installed.moduleState (textBytes name)).Preloads (textBytes name) opener := by
    intro name opener hgiven
    obtain ⟨g, hg, hloads⟩ := hlast name opener hgiven
    have hlist : (installed.moduleState (textBytes name)).searchers = .table list' :=
      (hagree.get (by decide)).trans hsearchers'
    refine ⟨⟨_, hlist⟩, ⟨f, ?_, hbody⟩, g, hg, hloads⟩
    rw [Vm.first_eq hlist, hagree.get hown']
    exact hlists.get_one hfirst
  refine ⟨fun list hlist => ?_, hpreloads, ?_, ?_⟩
  · refine ((htables list hlist).mono ?_).trans (hagree.mono ?_)
    · exact fun ref k hk => hk.2
    · exact fun ref k hk => hk.1
  · intro name opener hgiven hnew
    have hlocked' : (locked.table Vm.loaded).get (.text name) =
        (vm.table Vm.loaded).get (.text name) :=
      hkept.get ⟨fun _ => nofun, fun hlost => absurd hlost.1 (by decide)⟩
    have hsame := (hagree.get (by decide)).trans hlocked'
    exact opensOnRequest_of_preloads (hpreloads name opener hgiven) (hsame.trans hnew)
  · intro k hk
    rw [hothers k hk]
    exact (htables list hsearchers).get ⟨by decide, hown.symm⟩

/-- What is added to a machine is added to one with the same tables. -/
theorem InstallsOnly.of_tables {given : List (String × Opener)} {vm vm' installed : Vm}
    (h : InstallsOnly given vm installed) (htables : vm'.tables = vm.tables) :
    InstallsOnly given vm' installed := by
  have hsame : ∀ ref, vm'.table ref = vm.table ref := by
    intro ref
    unfold Store.table
    rw [htables]
  refine ⟨fun list hlist => ?_, h.last, ?_, ?_⟩
  · rw [hsame] at hlist
    exact (Vm.Agree.of_tables htables.symm).trans (h.agree list hlist)
  · intro name opener hgiven hnew
    rw [hsame] at hnew
    exact h.onRequest name opener hgiven hnew
  · intro k hk
    rw [hsame]
    exact h.others k hk

end Script

open Script

/-! ## Openings -/

section

variable {H : Type} [Host H]

/-- How an opening comes to a machine: from the stocked machine native modules are locked out and
the preloads are installed, and from the machine that this gives the functions for protected calls
are taken. -/
structure Session.Makes (s : Session H) (stocked installed : Vm) (live : Live) : Prop where
  begins : s.stocked? = some stocked
  installs : ∃ locked, Machine.run (lockNativeModules s.engine.settings.allowNative)
      (stocked.among stocked.files) = (.ok (), locked) ∧
    Machine.run s.engine.selection.installPreloads locked = (.ok (), installed)
  captures : ∃ vm, Machine.run Invoker.capture installed = (.ok live.invoker, vm) ∧
    live.vm = vm.settled

/-- A machine that has been made was made in this way. -/
theorem Operation.makes_of_prepare {s : Session H} {live : Live}
    (h : s.answer prepare = .ok live) : ∃ stocked installed, s.Makes stocked installed live := by
  obtain ⟨stocked, vm', hstocked, hrun, hvm⟩ := prepare_eq_ok h
  unfold lastSteps at hrun
  rw [Machine.run_bind] at hrun
  rcases hlock : Machine.run (lockNativeModules s.engine.settings.allowNative)
    (stocked.among stocked.files) with ⟨e | ⟨⟩, locked⟩
  · rw [hlock] at hrun
    cases hrun
  rw [hlock] at hrun
  dsimp only at hrun
  rw [Machine.run_bind] at hrun
  rcases hinstall : Machine.run s.engine.selection.installPreloads locked with
    ⟨e | ⟨⟩, installed⟩
  · rw [hinstall] at hrun
    cases hrun
  rw [hinstall] at hrun
  exact ⟨stocked, installed, hstocked, ⟨locked, hlock, hinstall⟩, vm', hrun, hvm⟩

namespace World

/-- An engine keeps what its builder was told about openers. -/
theorem selection_run (w : World H) (actions : List (Action H)) :
    (w.run actions).session.engine.selection = w.session.engine.selection := by
  obtain ⟨_, _, hstanding⟩ := w.standing_run actions
  exact congrArg Standing.selection hstanding

/-- Whatever an engine has done before, an opening visits the libraries in their order, each at most
once, and at each runs the opener that was given last for it, else what is built in, else nothing;
it stops at the first that fails. If the opening succeeds, and the routines of the host and the
openers of libraries have left in place what a request for a preload reads, then it has run no
opener of a preload. It has installed the one given last for each name, which is opened on
request. -/
theorem libraries_open_in_order_and_preloads_on_request {w : World H} {calls : List SelectionCall}
    (hbuilt : w.session.engine.selection = .ofCalls calls) (actions : List (Action H))
    (hclosed : (w.run actions).isOpen = false) :
    let s := (w.run actions).session
    (∀ registered,
        Machine.run (Operation.registration s.around.host) (Vm.fresh.among s.around.files) =
          (.ok (), registered) →
      ∃ visits result vm,
        VisitsInOrder (calls.filterMap (·.library?)) Library.all registered visits result vm ∧
          (visits.map (·.library)).Nodup ∧
            ∀ stocked, s.stocked? = some stocked ↔ result = .ok () ∧ stocked = vm) ∧
    (s.answer Operation.openEngine = .ok () →
      ∃ registered stocked installed live,
        Machine.run (Operation.registration s.around.host) (Vm.fresh.among s.around.files) =
          (.ok (), registered) ∧
          s.Makes stocked installed live ∧
            s.after Operation.openEngine =
              (s.after Operation.prepare).after (Operation.install live) ∧
                (stocked.FindsPreloads →
                  InstallsOnly (calls.filterMap (·.preload?)) stocked installed)) := by
  intro s
  have hselection : s.engine.selection =
      ⟨calls.filterMap (·.library?), calls.filterMap (·.preload?)⟩ :=
    (w.selection_run actions).trans (hbuilt.trans (Selection.ofCalls_eq calls))
  constructor
  · intro registered hregistered
    obtain ⟨visits, result, vm, hvisits, hstocked⟩ := Operation.visits_of_registration hregistered
    rw [hselection] at hvisits
    have hnodup : Library.all.Nodup := by decide
    exact ⟨visits, result, vm, hvisits, hnodup.sublist hvisits.order.sublist, hstocked⟩
  · intro hopened
    cases hprepare : s.answer Operation.prepare with
    | error e =>
      rw [(Operation.openEngine_of_error hclosed hprepare).2] at hopened
      cases hopened
    | ok live =>
      obtain ⟨stocked, installed, hmakes⟩ := Operation.makes_of_prepare hprepare
      obtain ⟨registered, hregistered⟩ := Operation.exists_registration hmakes.begins
      refine ⟨registered, stocked, installed, live, hregistered, hmakes,
        (Operation.openEngine_of_ok hclosed hprepare).1, fun hfinds => ?_⟩
      obtain ⟨locked, hlock, hinstall⟩ := hmakes.installs
      have hfinds' : (stocked.among stocked.files).FindsPreloads := hfinds.of_tables rfl
      have hinstalls := hfinds'.installs hlock hinstall
      rw [hselection] at hinstalls
      exact hinstalls.of_tables rfl

end World

end

namespace World

/-- The builder is told of two openers for one name, and to open none of the libraries. -/
def bridging : List SelectionCall :=
  Library.all.map (.library · .nothing) ++
    [.preload "luacom" (.failure "no bridge"),
      .preload "luacom"
        (.table (textBytes "luacom") [(textBytes "name", .text (textBytes "bridge"))])]

/-- A new engine without a host, with a preload. -/
def bridged : World :=
  ⟨.new (.new ⟨none, "", "", false, false⟩ (.ofCalls bridging) .log "") none, fun _ => .fresh⟩

/-- A run after which a new engine is closed again. -/
def useOnce : List (Action Document) := [.openEngine, .close]

/-- In the second machine of an engine the preload is closed again: the first request gives the
table that its later opener makes, and all others give the same table and change nothing. -/
theorem libraries_open_in_order_and_preloads_on_request_bridged :
    ∃ stocked installed live, (bridged.run useOnce).session.Makes stocked installed live ∧
      ∀ c d : RequireCall (textBytes "luacom"), ∃ later,
        c.reply installed = (.ok [.table installed.tables.size, .text ":preload:"], later) ∧
          d.reply later = (.ok [.table installed.tables.size], later) := by
  have hclosed : (bridged.run useOnce).isOpen = false := by
    decide +kernel
  have hopened : (bridged.run useOnce).session.answer Operation.openEngine = .ok () := by
    have hok : ((bridged.run useOnce).session.answer Operation.openEngine).isOk = true := by
      decide +kernel
    cases hanswer : (bridged.run useOnce).session.answer Operation.openEngine with
    | error e =>
      rw [hanswer] at hok
      cases hok
    | ok result => rfl
  have hstocked : (bridged.run useOnce).session.stocked? =
      some (Vm.fresh.among (bridged.run useOnce).session.around.files) := by
    have hhost : (bridged.run useOnce).session.around.host.isNone = true := by
      decide +kernel
    have hselection : (bridged.run useOnce).session.engine.selection =
        bridged.session.engine.selection :=
      bridged.selection_run useOnce
    unfold Session.stocked?
    rw [Option.isNone_iff_eq_none.mp hhost, hselection]
    generalize (bridged.run useOnce).session.around.files = files
    rfl
  obtain ⟨-, hopens⟩ := libraries_open_in_order_and_preloads_on_request
    (rfl : bridged.session.engine.selection = .ofCalls bridging) useOnce hclosed
  obtain ⟨-, stocked, installed, live, -, hmakes, -, hinstalls⟩ := hopens hopened
  cases hstocked.symm.trans hmakes.begins
  have hadded := hinstalls (Vm.findsPreloads_fresh.of_tables rfl)
  have hagree := hadded.agree _ rfl
  have hgiven : LastGiven (bridging.filterMap (·.preload?)) "luacom"
      (.table (textBytes "luacom") [(textBytes "name", .text (textBytes "bridge"))]) :=
    ⟨[("luacom", .failure "no bridge")], [], rfl, nofun⟩
  have hplain : (installed.table Vm.globals).metatable = none := hagree.metatable _
  have hpreloads := hadded.last _ _ hgiven
  have hunknown : ¬ (installed.moduleState (textBytes "luacom")).known.truthy = true := by
    have hnil : (installed.moduleState (textBytes "luacom")).known = .nil :=
      hagree.get (by decide)
    rw [hnil]
    nofun
  refine ⟨_, installed, live, hmakes, fun c d => ?_⟩
  have hreply := c.reply_of_table hunknown hplain hpreloads
  refine ⟨(c.reply installed).2, Prod.ext hreply rfl, ?_⟩
  have hloads : LoadsModule (c.reply installed).1 (.table installed.tables.size) := by
    rw [hreply]
    exact loadsModule_ok.mpr ⟨rfl, rfl⟩
  have hlife := Life.request c .new fun _ => c.spares_table hplain hpreloads
  exact (hadded.onRequest _ _ hgiven rfl).keeps _ _ hlife _ List.mem_cons_self _ hloads d

/-! ## Requests while an opener runs -/

/-- Calls a global function. -/
def calling (name : String) (args : List Expr) : Step :=
  .run (.call (.global (textBytes name)) args)

/-- Hands each new global variable to a function. -/
def watching (body : List Step) : Step :=
  calling "setmetatable" [.global (textBytes "_G"),
    .table [.keyed (.string (textBytes "__newindex")) (.function body)]]

/-- A new engine for a document, with a preload that the sandbox script requires. The script notes
each global variable that the opener would make, and at the first one it requires the preload a
second time. -/
def nested : Session :=
  let noting := calling "record" [.parameter 1]
  let requiring := calling "require" [.string (textBytes "luacom")]
  let sandbox := [watching [watching [noting], noting, requiring], requiring]
  .new (.new ⟨some sandbox, "", "", false, false⟩
    (.ofCalls [.preload "luacom" (.table (textBytes "luacom") [])]) .log "")
    (some (Document.new "W"))

/-- While an engine opens, its sandbox script can have the opener of a preload run, and have it run
twice although it gives a module. -/
theorem preload_opens_twice_in_opening :
    nested.engine.isOpen = false ∧ nested.around.notes.length = 0 ∧
      (nested.answer Operation.openEngine).isOk = true ∧
      (nested.after Operation.openEngine).around.notes.length = 2 ∧
      (nested.after Operation.openEngine).engine.live.map (fun now =>
        ((now.vm.table Vm.loaded).get (.text "luacom")).truthy) = some true := by
  decide +kernel

end World

end EventScripts
