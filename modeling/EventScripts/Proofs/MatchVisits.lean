import EventScripts.Proofs.MatchDescriptions
import EventScripts.Proofs.NativeCalls

/-!
# What a pattern hands to a function for each match

`gmatch` calls a function for the matches of a subject, one after the other and once for each, with
the text of the match and a table of its groups. What the function does is up to it: each call
begins in the machine that the one before left. The first call that gives `true` itself, or that
raises, is the last one; otherwise there is one for every match.

The table has the groups under their numbers, as the table of `exec` has them. It has no names; so
the two tables are the same exactly for patterns without names.
-/

set_option autoImplicit false

namespace EventScripts

namespace Script

open Pattern (Span)

/-! ## Visits -/

/-- A call that is made for a match: the table that is handed over, the machine in which the
function begins, what it ends with, and the machine that it leaves. -/
structure Visit where
  spans : List (Option Span)
  table : Value
  begun : Vm
  result : Except Value (List Value)
  ended : Vm

namespace Visit

/-- What the function gets: the text of the match, and the table. -/
def args (bytes : Bytes) (v : Visit) : List Value :=
  [.string (slice bytes (Pattern.wholeSpan v.spans)), v.table]

/-- The first result is `true` itself. -/
def Stops (v : Visit) : Prop :=
  ∃ results, v.result = .ok results ∧ results.head? = some (.boolean true)

/-- The function raised an error. -/
def Raises (v : Visit) : Prop := ∃ e, v.result = .error e

end Visit

/-- Only a first result that is `true` itself asks to stop. -/
theorem isStop_head_iff (results : List Value) :
    isStop (Value.head results) = true ↔ results.head? = some (.boolean true) := by
  cases results with
  | nil => exact iff_of_false nofun nofun
  | cons v rest =>
    cases v with
    | boolean b =>
      cases b with
      | false => exact iff_of_false nofun nofun
      | true => exact iff_of_true rfl rfl
    | _ => exact iff_of_false nofun nofun

section

variable (call : Caller) (site : Site) (bytes : Bytes) (f : Function)

/-- A function is called once for each of these visits, in order. Each call begins where the one
before has ended, but for the new table. -/
def Follow : Vm → List Visit → Prop
  | _, [] => True
  | vm, v :: rest =>
    Machine.run (Machine.newTable (numberedTable bytes v.spans)) vm = (.ok v.table, v.begun) ∧
    Machine.run (call site.inner f (v.args bytes)) v.begun = (v.result, v.ended) ∧
    Follow v.ended rest

/-- The machine after visits. -/
def endOf (vm : Vm) (vs : List Visit) : Vm := (vs.getLast?.map Visit.ended).getD vm

/-- The calls for matches from a machine on: they are for the first of the matches, in order and
once for each. No call but the last one stops or raises, and if they are not for all of the matches,
the last one does. -/
structure Visits (vm : Vm) (ms : List (List (Option Span))) (vs : List Visit) : Prop where
  follow : Follow call site bytes f vm vs
  inOrder : vs.map Visit.spans <+: ms
  goOn : ∀ v ∈ vs.dropLast, ¬ v.Stops ∧ ¬ v.Raises
  complete : vs.length < ms.length → ∃ v, vs.getLast? = some v ∧ (v.Stops ∨ v.Raises)

end

variable {call : Caller} {site : Site} {bytes : Bytes} {f : Function}

/-- After the first visit the others go on from its machine. -/
theorem endOf_cons (vm : Vm) (v : Visit) (vs : List Visit) :
    endOf vm (v :: vs) = endOf v.ended vs := by
  unfold endOf
  rw [List.getLast?_cons]
  cases vs.getLast? <;> rfl

section

variable {vm begun ended : Vm} {spans : List (Option Span)} {rest : List (List (Option Span))}
  {count : Nat} {t : Value}

/-- A call for the first match that stops or raises is the only one. -/
theorem visits_last {result : Except Value (List Value)}
    (hnew : Machine.run (Machine.newTable (numberedTable bytes spans)) vm = (.ok t, begun))
    (hcall : Machine.run
      (call site.inner f [.string (slice bytes (Pattern.wholeSpan spans)), t]) begun =
        (result, ended))
    (hlast : Visit.Stops ⟨spans, t, begun, result, ended⟩ ∨
      Visit.Raises ⟨spans, t, begun, result, ended⟩) :
    Visits call site bytes f vm (spans :: rest) [⟨spans, t, begun, result, ended⟩] where
  follow := ⟨hnew, hcall, trivial⟩
  inOrder := ⟨rest, rfl⟩
  goOn v hv := by cases hv
  complete _ := ⟨_, rfl, hlast⟩

/-- In front of the calls for the matches behind it stands the call for a match, if it goes on. -/
theorem Visits.cons {results : List Value} {vs : List Visit}
    (h : Visits call site bytes f ended rest vs)
    (hnew : Machine.run (Machine.newTable (numberedTable bytes spans)) vm = (.ok t, begun))
    (hcall : Machine.run
      (call site.inner f [.string (slice bytes (Pattern.wholeSpan spans)), t]) begun =
        (.ok results, ended))
    (hgoes : results.head? ≠ some (.boolean true)) :
    Visits call site bytes f vm (spans :: rest) (⟨spans, t, begun, .ok results, ended⟩ :: vs) where
  follow := ⟨hnew, hcall, h.follow⟩
  inOrder := List.cons_prefix_cons.mpr ⟨rfl, h.inOrder⟩
  goOn v hv := by
    cases vs with
    | nil => cases hv
    | cons w ws =>
      rw [List.dropLast_cons_of_ne_nil (List.cons_ne_nil w ws), List.mem_cons] at hv
      rcases hv with rfl | hv
      · refine ⟨?_, nofun⟩
        rintro ⟨results', hresults, hstop⟩
        cases hresults
        exact hgoes hstop
      · exact h.goOn v hv
  complete hshort := by
    obtain ⟨v, hv, hstops⟩ := h.complete (Nat.lt_of_succ_lt_succ hshort)
    exact ⟨v, by rw [List.getLast?_cons, hv]; rfl, hstops⟩

/-- After a call that gave results the other matches follow, unless it asked to stop. -/
theorem run_eachMatch_of_ok {results : List Value}
    (hnew : Machine.run (Machine.newTable (numberedTable bytes spans)) vm = (.ok t, begun))
    (hcall : Machine.run
      (call site.inner f [.string (slice bytes (Pattern.wholeSpan spans)), t]) begun =
        (.ok results, ended)) :
    Machine.run (eachMatch call site bytes f count (spans :: rest)) vm =
      Machine.run (if isStop (Value.head results) then pure (count + 1)
        else eachMatch call site bytes f (count + 1) rest) ended := by
  conv_lhs => unfold eachMatch
  exact (Machine.run_bind_of_ok hnew _).trans
    (Machine.run_bind_of_ok (run_callFromNative_of_ok hcall) _)

/-- After a call that raised nothing follows. -/
theorem run_eachMatch_of_error {e : Value} {cause : Fault} {vm' : Vm}
    (hnew : Machine.run (Machine.newTable (numberedTable bytes spans)) vm = (.ok t, begun))
    (hcall : Machine.run
      (call site.inner f [.string (slice bytes (Pattern.wholeSpan spans)), t]) begun =
        (.error e, ended))
    (hcause : Machine.run (faultOf call site.inner e) ended = (.ok cause, vm')) :
    Machine.run (eachMatch call site bytes f count (spans :: rest)) vm =
      (.error (.fault (.wrapped traceMark cause)), vm') := by
  unfold eachMatch
  refine (Machine.run_bind_of_ok hnew _).trans ?_
  rw [Machine.run_bind, run_callFromNative_of_error hcall hcause]

end

/-- What is done with the matches: the calls are made, and counted unless the last one raises; the
error of that one is the error of the whole. The induction is on the matches. -/
theorem run_eachMatch (call : Caller) (site : Site) (bytes : Bytes) (f : Function)
    (ms : List (List (Option Span))) (count : Nat) (vm : Vm) :
    ∃ vs, Visits call site bytes f vm ms vs ∧
      ((∀ v ∈ vs, ¬ v.Raises) →
        Machine.run (eachMatch call site bytes f count ms) vm =
          (.ok (count + vs.length), endOf vm vs)) ∧
      (∀ v e cause vm', vs.getLast? = some v → v.result = .error e →
        Machine.run (faultOf call site.inner e) v.ended = (.ok cause, vm') →
        Machine.run (eachMatch call site bytes f count ms) vm =
          (.error (.fault (.wrapped traceMark cause)), vm')) := by
  induction ms generalizing count vm with
  | nil =>
    refine ⟨[], ⟨trivial, List.nil_prefix, ?_, ?_⟩, ?_, ?_⟩
    · intro v hv
      cases hv
    · intro hshort
      cases hshort
    · intro _
      exact Machine.run_pure _ vm
    · intro v e cause vm' hlast
      cases hlast
  | cons spans rest ih =>
    obtain ⟨t, begun, hnew, -, -⟩ := newTable_spec (numberedTable bytes spans) vm
    rcases hcall : Machine.run
      (call site.inner f [.string (slice bytes (Pattern.wholeSpan spans)), t]) begun with
      ⟨e | results, ended⟩
    · -- The call raises: it is the last one.
      refine ⟨_, visits_last hnew hcall (.inr ⟨e, rfl⟩), ?_, ?_⟩
      · intro hquiet
        exact absurd ⟨e, rfl⟩ (hquiet _ List.mem_cons_self)
      · intro v e' cause vm' hv he hcause
        cases hv
        cases he
        exact run_eachMatch_of_error hnew hcall hcause
    · by_cases hstop : results.head? = some (.boolean true)
      · -- The call asks to stop: it is the last one, and counted.
        refine ⟨_, visits_last hnew hcall (.inl ⟨results, rfl, hstop⟩), ?_, ?_⟩
        · intro _
          rw [run_eachMatch_of_ok hnew hcall, if_pos ((isStop_head_iff results).mpr hstop)]
          exact Machine.run_pure _ ended
        · intro v e cause vm' hv he
          cases hv
          cases he
      · obtain ⟨vs, hvisits, hreturns, hraises⟩ := ih (count + 1) ended
        refine ⟨_, hvisits.cons hnew hcall hstop, ?_, ?_⟩ <;>
          rw [run_eachMatch_of_ok hnew hcall, if_neg (mt (isStop_head_iff results).mp hstop)]
        · intro hquiet
          rw [hreturns fun v hv => hquiet v (List.mem_cons_of_mem _ hv), endOf_cons,
            List.length_cons, Nat.add_assoc, Nat.add_comm 1]
        · intro v e cause vm' hv he hcause
          rw [List.getLast?_cons] at hv
          cases hlast : vs.getLast? with
          | none =>
            rw [hlast] at hv
            cases hv
            cases he
          | some w =>
            rw [hlast] at hv
            exact hraises v e cause vm' (hlast.trans hv) he hcause

/-- Each of the calls gets a new table for its match. -/
theorem Follow.holds {vm : Vm} {vs : List Visit} (h : Follow call site bytes f vm vs) {v : Visit}
    (hv : v ∈ vs) : v.begun.Holds v.table (numberedTable bytes v.spans) := by
  induction vs generalizing vm with
  | nil => cases hv
  | cons w rest ih =>
    obtain ⟨hnew, -, hrest⟩ := h
    rcases List.mem_cons.mp hv with rfl | hmem
    · obtain ⟨t, begun, hspec, -, hholds⟩ := newTable_spec (numberedTable bytes v.spans) vm
      rw [hnew] at hspec
      cases hspec
      exact hholds
    · exact ih hrest hmem

/-- A call that raised is the last one. -/
theorem Visits.getLast?_of_raises {vm : Vm} {ms : List (List (Option Span))} {vs : List Visit}
    (h : Visits call site bytes f vm ms vs) {v : Visit} (hv : v ∈ vs) (hraises : v.Raises) :
    vs.getLast? = some v := by
  have hne : vs ≠ [] := List.ne_nil_of_mem hv
  rw [← List.dropLast_concat_getLast hne, List.mem_append, List.mem_singleton] at hv
  rcases hv with hearly | rfl
  · exact absurd hraises (h.goOn v hearly).2
  · exact List.getLast?_eq_some_getLast hne

/-! ## Calls of the method -/

namespace PatternMethod

variable {args : List Value} {vm : Vm} {p : Pattern} {subject : String}

/-- What a call of `gmatch` comes to, by the calls that it makes. -/
theorem exists_visits (hargs : Receives vm args p subject)
    (hf : function? (args[2]?.getD .nil) = some f) (call : Caller) (site : Site) :
    ∃ vs, Visits call site (textBytes subject) f vm (p.matchesOf subject) vs ∧
      ((∀ v ∈ vs, ¬ v.Raises) →
        Machine.run (PatternMethod.gmatch.run call site args) vm =
          (.ok [.integer (Int64.ofNat vs.length)], endOf vm vs)) ∧
      (∀ v e cause vm', vs.getLast? = some v → v.result = .error e →
        Machine.run (faultOf call site.inner e) v.ended = (.ok cause, vm') →
        Machine.run (PatternMethod.gmatch.run call site args) vm =
          (.error (.fault (.wrapped traceMark cause)), vm')) := by
  obtain ⟨vs, hvisits, hreturns, hraises⟩ :=
    run_eachMatch call site (textBytes subject) f (p.matchesOf subject) 0 vm
  have hrun : Machine.run (PatternMethod.gmatch.run call site args) vm = Machine.run (do
      let count ← eachMatch call site (textBytes subject) f 0 (p.matchesOf subject)
      pure [.integer (Int64.ofNat count)]) vm := by
    rw [run_of_receives hargs]
    exact Machine.run_bind_of_ok (run_converted hf site vm) _
  refine ⟨vs, hvisits, ?_, ?_⟩
  · intro hquiet
    rw [hrun, Machine.run_bind_of_ok (hreturns hquiet), Machine.run_pure, Nat.zero_add]
  · intro v e cause vm' hlast he hcause
    rw [hrun, Machine.run_bind, hraises v e cause vm' hlast he hcause]

/-- `gmatch` visits the matches of a subject once each, in order, and stops exactly when it is told
to: at the first call whose first result is `true` itself, or that raises. The number that it gives
is that of the calls; the error of a call comes out of it. -/
theorem gmatch_visits_matches_in_order (hargs : Receives vm args p subject)
    (hf : function? (args[2]?.getD .nil) = some f) (call : Caller) (site : Site) :
    let gmatch := Machine.run (PatternMethod.gmatch.run call site args) vm
    ∃ vs, Visits call site (textBytes subject) f vm (p.matchesOf subject) vs ∧
      ((∀ v ∈ vs, ¬ v.Raises) →
        gmatch = (.ok [.integer (Int64.ofNat vs.length)], endOf vm vs)) ∧
      (∀ v ∈ vs, ∀ e, v.result = .error e → vs.getLast? = some v ∧
        ∃ cause vm', Machine.run (faultOf call site.inner e) v.ended = (.ok cause, vm') ∧
          gmatch = (.error (.fault (.wrapped traceMark cause)), vm') ∧
          ∀ g, e = .fault g → cause = g ∧ vm' = v.ended) := by
  intro gmatch
  obtain ⟨vs, hvisits, hreturns, hraises⟩ := exists_visits hargs hf call site
  refine ⟨vs, hvisits, hreturns, ?_⟩
  intro v hv e he
  have hlast : vs.getLast? = some v := hvisits.getLast?_of_raises hv ⟨e, he⟩
  obtain ⟨cause, vm', hcause⟩ := run_faultOf call site.inner e v.ended
  refine ⟨hlast, cause, vm', hcause, hraises v e cause vm' hlast he hcause, ?_⟩
  rintro g rfl
  rw [run_faultOf_fault] at hcause
  cases hcause
  exact ⟨rfl, rfl⟩

/-- The only integer of results. -/
def soleInteger? : Except Value (List Value) → Option Int64
  | .ok [.number (.integer i)] => some i
  | _ => none

/-- A function of a script that asks to stop at a match which is not just an `x`. -/
def picky : Function :=
  ⟨0, .script ⟨textBytes "Script file", 1,
    [.leave [.differ (.parameter 0) (.string (textBytes "x"))]]⟩⟩

/-- It is called for the first two of three matches. -/
theorem gmatch_visits_matches_in_order_picky :
    (tagged.matchesOf "xxyx").length = 3 ∧
    ∃ vs, Visits invoke .outside (textBytes "xxyx") picky tagging (tagged.matchesOf "xxyx") vs ∧
      vs.length = 2 := by
  refine ⟨by decide +kernel, ?_⟩
  have hargs : Receives tagging [.object 0, .text "xxyx", .function picky] tagged "xxyx" :=
    ⟨⟨0, rfl, rfl⟩, by decide +kernel⟩
  have hsole : soleInteger? (Machine.run (PatternMethod.gmatch.run invoke .outside
      [.object 0, .text "xxyx", .function picky]) tagging).1 = some 2 := by
    decide +kernel
  obtain ⟨vs, hvisits, hreturns, hraises⟩ :=
    gmatch_visits_matches_in_order hargs rfl invoke .outside
  have hquiet : ∀ v ∈ vs, ¬ v.Raises := by
    rintro v hv ⟨e, he⟩
    obtain ⟨-, cause, vm', -, hrun, -⟩ := hraises v hv e he
    rw [hrun] at hsole
    cases hsole
  have hcount : Key.integer (Int64.ofNat vs.length) = .integer (Int64.ofNat 2) := by
    rw [hreturns hquiet] at hsole
    exact congrArg Key.integer (Option.some.inj hsole)
  have hfew : vs.length ≤ 3 := by
    have hprefix := hvisits.inOrder.length_le
    have hthree : (tagged.matchesOf "xxyx").length = 3 := by decide +kernel
    rwa [hthree, List.length_map] at hprefix
  refine ⟨vs, hvisits, (integer_ofNat_inj ?_ ?_).mp hcount⟩ <;> unfold listBound <;> omega

/-! ## The table that is handed over -/

/-- Under whole numbers the table of `exec` has what the table that is handed over has. -/
theorem get_numberedTable_integer (p : Pattern) (bytes : Bytes) (spans : List (Option Span))
    (i : Int64) :
    (numberedTable bytes spans).get (.integer i) =
      (describedTable p bytes spans).get (.integer i) := by
  have hnames : (namedGroups p bytes spans).find? (·.1 == Key.integer i) = none := by
    rw [List.find?_eq_none]
    intro e he hkey
    obtain ⟨name, -, rfl⟩ := List.mem_map.mp he
    exact CaptureSet.text_ne_integer name.1 i (by simpa using hkey)
  unfold Table.get numberedTable describedTable Table.ofEntries
  dsimp only
  rw [List.find?_append, hnames, Option.or_none]

/-- No name is handed over. -/
theorem not_hasKey_numberedTable_text (bytes : Bytes) (spans : List (Option Span)) (name : String) :
    ¬ (numberedTable bytes spans).HasKey (.text name) := by
  intro hkey
  obtain ⟨e, he, hname⟩ := List.mem_map.mp hkey
  obtain ⟨i, span, -, -, rfl⟩ := mem_numberedGroups_iff.mp he
  exact CaptureSet.text_ne_integer name _ hname.symm

/-- How the table that is handed over for a match stands to the one in which `exec` describes it:
they have the same values under whole numbers, and the names are missing. So they are the same
exactly if there is no name. -/
structure Unnames (p : Pattern) (handed described : Table) : Prop where
  numbers : ∀ i, handed.get (.integer i) = described.get (.integer i)
  keys : ∀ k, described.HasKey k ↔ handed.HasKey k ∨ ∃ name ∈ p.names, k = .text name.1
  nameless : ∀ name, ¬ handed.HasKey (.text name)
  same : (∀ k, (handed.HasKey k ↔ described.HasKey k) ∧ handed.get k = described.get k) ↔
    p.names = []

/-- The table of the numbered groups is the described one without the names. -/
theorem unnames_numberedTable (p : Pattern) (bytes : Bytes) (spans : List (Option Span)) :
    Unnames p (numberedTable bytes spans) (describedTable p bytes spans) where
  numbers := get_numberedTable_integer p bytes spans
  keys := hasKey_describedTable_iff p bytes spans
  nameless := not_hasKey_numberedTable_text bytes spans
  same := by
    constructor
    · intro hsame
      rw [List.eq_nil_iff_forall_not_mem]
      intro name hname
      refine not_hasKey_numberedTable_text bytes spans name.1 ((hsame _).1.mpr ?_)
      exact (hasKey_describedTable_iff p bytes spans _).mpr (.inr ⟨name, hname, rfl⟩)
    · intro hnone
      have heq : describedTable p bytes spans = numberedTable bytes spans := by
        unfold describedTable numberedTable namedGroups
        rw [hnone, List.map_nil, List.append_nil]
      rw [heq]
      exact fun k => ⟨Iff.rfl, rfl⟩

/-- For each match that `gmatch` visits, the function gets the text between the places that `exec`
gives for this match, and a table that is the one of `exec` without the names: the same table
exactly if the pattern has no names. -/
theorem gmatch_hands_over_described_iff_unnamed (hlists : p.Lists subject)
    (hargs : Receives vm args p subject) (hf : function? (args[2]?.getD .nil) = some f)
    (call : Caller) (site : Site) :
    ∃ vs, Visits call site (textBytes subject) f vm (p.matchesOf subject) vs ∧
      ((∀ v ∈ vs, ¬ v.Raises) →
        Machine.run (PatternMethod.gmatch.run call site args) vm =
          (.ok [.integer (Int64.ofNat vs.length)], endOf vm vs)) ∧
      ∀ v ∈ vs, ∃ s e t vm' handed described text,
        Machine.run (describeMatch p (textBytes subject) v.spans) v.begun =
          (.ok [.integer (Int64.ofNat s), .integer (Int64.ofNat e), t], vm') ∧
        vm'.Holds t described ∧ v.begun.Holds v.table handed ∧ Unnames p handed described ∧
        1 ≤ s ∧ Pattern.Covers subject (s - 1, e) text ∧
        v.args (textBytes subject) = [.text text, v.table] := by
  obtain ⟨vs, hvisits, hreturns, -⟩ := exists_visits hargs hf call site
  refine ⟨vs, hvisits, hreturns, ?_⟩
  intro v hv
  have hmatch : p.IsMatch subject v.spans :=
    hlists _ (hvisits.inOrder.mem (List.mem_map_of_mem hv))
  obtain ⟨text, hcovers⟩ := hmatch.exists_text
  obtain ⟨t, vm', hrun, -, hholds⟩ :=
    run_describeMatch p (textBytes subject) v.spans v.begun
  refine ⟨_, _, t, vm', _, _, text, hrun, hholds, hvisits.follow.holds hv,
    unnames_numberedTable p (textBytes subject) v.spans, by omega, hcovers, ?_⟩
  unfold Visit.args
  rw [Pattern.slice_of_covers hcovers]
  rfl

/-- A function of a script that keeps the table that it gets. -/
def keeping : Function :=
  ⟨0, .script ⟨textBytes "Script file", 1, [.setGlobal (textBytes "t") (.parameter 1)]⟩⟩

/-- A function that keeps its table is visited with these tables. -/
theorem gmatch_hands_over_described_iff_unnamed_tagged :
    ∃ vs, Visits invoke .outside (textBytes "éx") keeping tagging (tagged.matchesOf "éx") vs ∧
      ∀ v ∈ vs, ∃ s e t vm' handed described text,
        Machine.run (describeMatch tagged (textBytes "éx") v.spans) v.begun =
          (.ok [.integer (Int64.ofNat s), .integer (Int64.ofNat e), t], vm') ∧
        vm'.Holds t described ∧ v.begun.Holds v.table handed ∧ Unnames tagged handed described ∧
        1 ≤ s ∧ Pattern.Covers "éx" (s - 1, e) text ∧
        v.args (textBytes "éx") = [.text text, v.table] := by
  have hlists : tagged.Lists "éx" := by
    have hmatches : tagged.matchesOf "éx" = [[some (2, 3), some (2, 3), none]] := by
      decide +kernel
    intro spans hspans
    rw [hmatches, List.mem_singleton] at hspans
    rw [hspans]
    exact isMatch_tagged
  have hargs : Receives tagging [.object 0, .text "éx", .function keeping] tagged "éx" :=
    ⟨⟨0, rfl, rfl⟩, by decide +kernel⟩
  obtain ⟨vs, hvisits, -, htables⟩ :=
    gmatch_hands_over_described_iff_unnamed hlists hargs rfl invoke .outside
  exact ⟨vs, hvisits, htables⟩

/-- The keys of a table, none for what is not a table. -/
def keysIn (vm : Vm) : Value → List Key
  | .table ref => (vm.table ref).entries.map (·.1)
  | _ => []

/-- In the table of `exec` the first group has its name, in the one that a function gets from
`gmatch` it has not. -/
theorem gmatch_hands_over_no_name :
    let told := Machine.run (PatternMethod.exec.run invoke .outside [.object 0, .text "éx"]) tagging
    let kept := (Machine.run (PatternMethod.gmatch.run invoke .outside
      [.object 0, .text "éx", .function keeping]) tagging).2
    keysIn told.2 ((told.1.toOption.getD [])[2]?.getD .nil) =
      [.integer 1, .integer 2, .text "a"] ∧
    keysIn kept ((kept.table Vm.globals).get (.text "t")) = [.integer 1, .integer 2] := by
  decide +kernel

end PatternMethod

end Script

end EventScripts
