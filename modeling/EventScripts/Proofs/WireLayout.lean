import EventScripts.Json.Reader
import EventScripts.Proofs.CallArguments
import EventScripts.Wire.Requests

/-!
# The order of the arguments that scripts rely on

Scripts take the arguments of a call by their places: numbers, texts, at most one table of captures,
at most one of fields, at most one of a styled line. A request has this layout exactly when its
payloads ascend strictly in rank. The builder sees to that, whatever calls are made on it. A request
that is read from JSON has its payloads as they stand there, and nothing sees to it.
-/

set_option autoImplicit false

namespace EventScripts

open Script

/-- The payloads ascend strictly in rank, so that there is at most one of each kind. -/
def Ascending (ps : List Payload) : Prop := ps.Pairwise fun p q => p.rank < q.rank

namespace Request

/-! ## The builder -/

/-- A call of the builder. -/
inductive BuilderCall where
  | source (o : Origin)
  | number (x : Float)
  | string (s : String)
  | payload (p : Payload)
  | captures (set : CaptureSet)
  | fields (pairs : List (String × String))
  | styledLine (line : StyledLine)
  | withResult

/-- The request after a call of the builder. -/
def BuilderCall.apply (r : Request) : BuilderCall → Request
  | .source o => r.withSource o
  | .number x => r.number x
  | .string s => r.string s
  | .payload p => r.payload p
  | .captures set => r.captures set
  | .fields pairs => r.fields pairs
  | .styledLine line => r.styledLine line
  | .withResult => r.withResult

/-- The request after calls of the builder. -/
def build (r : Request) (calls : List BuilderCall) : Request := calls.foldl BuilderCall.apply r

/-- Putting a payload among others only moves it. -/
theorem perm_insertPayload (p : Payload) (ps : List Payload) :
    (insertPayload p ps).Perm (p :: ps) := by
  induction ps with
  | nil => exact .refl _
  | cons q qs ih =>
    unfold insertPayload
    split
    · exact (ih.cons q).trans (.swap p q qs)
    · exact .refl _

/-- Putting a payload in its place keeps the ranks in order. -/
theorem pairwise_insertPayload (p : Payload) {ps : List Payload}
    (h : ps.Pairwise fun a b => a.rank ≤ b.rank) :
    (insertPayload p ps).Pairwise fun a b => a.rank ≤ b.rank := by
  induction ps with
  | nil => exact List.pairwise_singleton _ p
  | cons q qs ih =>
    obtain ⟨hq, hqs⟩ := List.pairwise_cons.mp h
    unfold insertPayload
    by_cases hle : q.rank ≤ p.rank
    · rw [if_pos hle]
      refine List.pairwise_cons.mpr ⟨fun a ha => ?_, ih hqs⟩
      rcases List.mem_cons.mp ((perm_insertPayload p qs).mem_iff.mp ha) with rfl | hmem
      · exact hle
      · exact hq a hmem
    · rw [if_neg hle]
      refine List.pairwise_cons.mpr ⟨fun a ha => ?_, h⟩
      rcases List.mem_cons.mp ha with rfl | hmem
      · omega
      · have hqa := hq a hmem
        omega

/-- Sorting payloads moves them until their ranks are in order. -/
theorem sortPayloads_spec (ps : List Payload) :
    (sortPayloads ps).Perm ps ∧ (sortPayloads ps).Pairwise fun a b => a.rank ≤ b.rank := by
  have hfold : ∀ (rest sorted : List Payload), sorted.Pairwise (fun a b => a.rank ≤ b.rank) →
      (rest.foldl (fun sorted p => insertPayload p sorted) sorted).Perm (sorted ++ rest) ∧
      (rest.foldl (fun sorted p => insertPayload p sorted) sorted).Pairwise
        fun a b => a.rank ≤ b.rank := by
    intro rest
    induction rest with
    | nil =>
      intro sorted h
      rw [List.append_nil]
      exact ⟨.refl _, h⟩
    | cons p rest ih =>
      intro sorted h
      obtain ⟨hperm, hsorted⟩ := ih _ (pairwise_insertPayload p h)
      refine ⟨hperm.trans ?_, hsorted⟩
      exact ((perm_insertPayload p sorted).append_right rest).trans List.perm_middle.symm
  have hall := hfold ps [] .nil
  rw [List.nil_append] at hall
  exact hall

/-- A payload that is added to ascending ones leaves them ascending. -/
theorem ascending_payload {r : Request} (h : Ascending r.payloads) (p : Payload) :
    Ascending (r.payload p).payloads := by
  have hothers : (r.payloads.filter (·.rank != p.rank)).Pairwise fun a b => a.rank ≠ b.rank :=
    (h.filter _).imp fun hlt => Nat.ne_of_lt hlt
  have hdistinct : (r.payloads.filter (·.rank != p.rank) ++ [p]).Pairwise
      fun a b => a.rank ≠ b.rank := by
    refine List.pairwise_append.mpr ⟨hothers, List.pairwise_singleton _ p, ?_⟩
    intro a ha b hb
    rw [List.mem_singleton.mp hb]
    simpa using (List.mem_filter.mp ha).2
  -- Sorting gives `≤`, and taking out the rank of `p` first makes that strict.
  obtain ⟨hperm, hsorted⟩ := sortPayloads_spec (r.payloads.filter (·.rank != p.rank) ++ [p])
  have hsortedDistinct := (hperm.pairwise_iff fun hne => Ne.symm hne).mpr hdistinct
  exact (hsorted.and hsortedDistinct).imp fun hboth => Nat.lt_of_le_of_ne hboth.1 hboth.2

/-- No call of the builder spoils the order of the payloads. -/
theorem ascending_apply {r : Request} (h : Ascending r.payloads) (c : BuilderCall) :
    Ascending (c.apply r).payloads := by
  cases c with
  | payload p => exact ascending_payload h p
  | captures set => exact ascending_payload h _
  | fields pairs => exact ascending_payload h _
  | styledLine line => exact ascending_payload h _
  | _ => exact h

/-- No calls of the builder spoil the order of the payloads. -/
theorem ascending_build {r : Request} (h : Ascending r.payloads) (calls : List BuilderCall) :
    Ascending (r.build calls).payloads := by
  unfold build
  induction calls generalizing r with
  | nil => exact h
  | cons c rest ih => exact ih (ascending_apply h c)

/-! ## The layout -/

/-- The payloads of which there is at most one of each kind, in the order that scripts rely on. -/
def orderedPayloads (set : Option CaptureSet) (pairs : Option (List (String × String)))
    (line : Option StyledLine) : List Payload :=
  set.toList.map .captures ++ pairs.toList.map .fields ++ line.toList.map .styledLine

/-- The layout that scripts rely on: the payloads are listed in it, and the arguments of the call
are the numbers, the texts, and the tables that stand for these payloads, in any machine. -/
def WireLayout (r : Request) : Prop :=
  ∃ set pairs line, r.payloads = orderedPayloads set pairs line ∧
    ∀ vm, ∃ tables vm', Machine.run r.arguments vm =
        (.ok (r.numbers.map Value.double ++ r.strings.map Value.text ++ tables), vm') ∧
      List.Forall₂ (Payload.Stands vm') (orderedPayloads set pairs line) tables

/-- The ranks behind a payload are above a bound that its own rank reaches. -/
theorem Ascending.ranks_of_head {p : Payload} {ps : List Payload} (h : Ascending (p :: ps))
    {bound : Nat} (hp : bound ≤ p.rank) : ∀ q ∈ p :: ps, bound ≤ q.rank := by
  intro q hq
  obtain ⟨hlater, -⟩ := List.pairwise_cons.mp h
  rcases List.mem_cons.mp hq with rfl | hmem
  · exact hp
  · exact Nat.le_of_lt (Nat.lt_of_le_of_lt hp (hlater q hmem))

/-- Ascending payloads from the rank of styled lines on. -/
theorem Ascending.lines {ps : List Payload} (h : Ascending ps) (hrank : ∀ p ∈ ps, 2 ≤ p.rank) :
    ∃ line : Option StyledLine, ps = line.toList.map .styledLine := by
  cases ps with
  | nil => exact ⟨none, rfl⟩
  | cons p rest =>
    have hp := hrank p List.mem_cons_self
    obtain ⟨hlater, -⟩ := List.pairwise_cons.mp h
    cases p with
    | styledLine line =>
      cases rest with
      | nil => exact ⟨some line, rfl⟩
      | cons q qs =>
        have hq := hlater q List.mem_cons_self
        cases q <;> simp [Payload.rank] at hq
    | _ => simp [Payload.rank] at hp

/-- Ascending payloads from the rank of fields on. -/
theorem Ascending.fieldsAndLines {ps : List Payload} (h : Ascending ps)
    (hrank : ∀ p ∈ ps, 1 ≤ p.rank) :
    ∃ (pairs : Option (List (String × String))) (line : Option StyledLine),
      ps = pairs.toList.map .fields ++ line.toList.map .styledLine := by
  cases ps with
  | nil => exact ⟨none, none, rfl⟩
  | cons p rest =>
    have hp := hrank p List.mem_cons_self
    obtain ⟨hlater, hrest⟩ := List.pairwise_cons.mp h
    cases p with
    | captures set => simp [Payload.rank] at hp
    | fields pairs =>
      obtain ⟨line, hline⟩ := Ascending.lines hrest hlater
      exact ⟨some pairs, line, congrArg (Payload.fields pairs :: ·) hline⟩
    | styledLine line =>
      obtain ⟨line, hline⟩ := Ascending.lines h (Ascending.ranks_of_head h (Nat.le_refl 2))
      exact ⟨none, line, hline⟩

/-- Payloads ascend exactly when they are those of the layout. -/
theorem ascending_iff (ps : List Payload) :
    Ascending ps ↔ ∃ set pairs line, ps = orderedPayloads set pairs line := by
  constructor
  · intro hps
    cases ps with
    | nil => exact ⟨none, none, none, rfl⟩
    | cons p rest =>
      obtain ⟨hlater, hrest⟩ := List.pairwise_cons.mp hps
      cases p with
      | captures set =>
        obtain ⟨pairs, line, htail⟩ := Ascending.fieldsAndLines hrest hlater
        exact ⟨some set, pairs, line, congrArg (Payload.captures set :: ·) htail⟩
      | fields pairs =>
        obtain ⟨pairs, line, hall⟩ := Ascending.fieldsAndLines hps
          (Ascending.ranks_of_head hps (Nat.le_refl 1))
        exact ⟨none, pairs, line, hall⟩
      | styledLine line =>
        obtain ⟨pairs, line, hall⟩ := Ascending.fieldsAndLines hps
          (Ascending.ranks_of_head hps (Nat.le_succ 1))
        exact ⟨none, pairs, line, hall⟩
  · rintro ⟨set, pairs, line, rfl⟩
    cases set <;> cases pairs <;> cases line <;>
      simp [Ascending, orderedPayloads, Payload.rank]

/-- A request has the layout exactly when its payloads ascend. -/
theorem wireLayout_iff_ascending (r : Request) : r.WireLayout ↔ Ascending r.payloads := by
  constructor
  · rintro ⟨set, pairs, line, hpayloads, -⟩
    exact (ascending_iff r.payloads).mpr ⟨set, pairs, line, hpayloads⟩
  · intro hps
    obtain ⟨set, pairs, line, hpayloads⟩ := (ascending_iff r.payloads).mp hps
    refine ⟨set, pairs, line, hpayloads, fun vm => ?_⟩
    obtain ⟨tables, vm', hrun, -, htables⟩ := r.arguments_spec vm
    exact ⟨tables, vm', hrun, hpayloads ▸ htables⟩

/-! ## Requests that are read -/

/-- The payloads that stand in the JSON of a request. -/
def payloadsOfJson? (j : Json) : Option (List Payload) := do
  match ← Json.asFields? fieldNames j with
  | [_, _, _, _, _, _, some payloads, _] => Json.asList? Payload.ofJson? payloads
  | _ => none

/-- A request that is read has the payloads that stand in the JSON, in their order. -/
theorem payloads_of_ofJson {j : Json} {r : Request} (h : ofJson? j = some r) :
    payloadsOfJson? j = some r.payloads := by
  unfold ofJson? at h
  unfold payloadsOfJson?
  cases hfields : Json.asFields? fieldNames j with
  | none =>
    rw [hfields] at h
    cases h
  | some fields =>
    rw [hfields] at h
    simp only [Option.bind_eq_bind, Option.bind_some] at h ⊢
    split at h
    · simp only [Option.bind_eq_some_iff] at h
      obtain ⟨_, -, _, -, _, -, _, -, _, -, _, -, payloads, hpayloads, _, -, hr⟩ := h
      cases hr
      exact hpayloads
    · cases h

/-- A request has the layout exactly when its payloads ascend. One that the builder has made always
does; one that is read does exactly when the payloads ascend as they stand in the JSON. -/
theorem wire_layout_exactly_when_ascending (r : Request) :
    (r.WireLayout ↔ Ascending r.payloads) ∧
    (∀ procedure kind reason calls,
      r = (Request.new procedure kind reason).build calls → r.WireLayout) ∧
    (∀ j, ofJson? j = some r →
      ∃ ps, payloadsOfJson? j = some ps ∧ (r.WireLayout ↔ Ascending ps)) := by
  refine ⟨wireLayout_iff_ascending r, ?_, ?_⟩
  · rintro procedure kind reason calls rfl
    have hnew : Ascending (Request.new procedure kind reason).payloads := .nil
    exact (wireLayout_iff_ascending _).mpr (ascending_build hnew calls)
  · intro j h
    exact ⟨r.payloads, payloads_of_ofJson h, wireLayout_iff_ascending r⟩

/-- A request in JSON with fields before captures. -/
def reorderedText : String :=
  "\x7b\"procedure\":\"f\"," ++ "\"source\":\"unknown\"," ++ "\"kind\":\"trigger\","
    ++ "\"reason\":\"\"," ++ "\"numbers\":[]," ++ "\"strings\":[\"a\"]," ++ "\"payloads\":["
    ++ "\x7b\"type\":\"fields\"," ++ "\"value\":\x7b\"k\":\"v\"\x7d\x7d,"
    ++ "\x7b\"type\":\"captures\"," ++ "\"value\":\x7b\"groups\":[\"x\"]," ++ "\"names\":[],"
    ++ "\"duplicate_names\":false\x7d\x7d]," ++ "\"want_result\":false\x7d"

/-- A request that is read with fields before captures has not the layout: its payloads are listed
in that order, and its call passes the table of fields before the table of captures. -/
theorem wire_layout_fails_reordered :
    ∃ r, (Json.read? reorderedText).bind ofJson? = some r ∧ ¬ r.WireLayout ∧
      r.payloads = [.fields [("k", "v")], .captures ⟨[some "x"], [], false⟩] ∧
      ∀ vm, ∃ first second vm',
        Machine.run r.arguments vm = (.ok [.text "a", first, second], vm') ∧
        (Payload.fields [("k", "v")]).Stands vm' first ∧
        (Payload.captures ⟨[some "x"], [], false⟩).Stands vm' second := by
  have hread : ((Json.read? reorderedText).bind ofJson?).map
      (fun r => (r.numbers.isEmpty, r.strings, r.payloads)) =
        some (true, ["a"], [.fields [("k", "v")], .captures ⟨[some "x"], [], false⟩]) := by
    unfold Json.read? reorderedText
    -- Taking the characters of one long text would be quadratic in the kernel.
    simp only [String.toList_append]
    decide +kernel
  obtain ⟨r, hr, hparts⟩ := Option.map_eq_some_iff.mp hread
  simp only [Prod.mk.injEq, List.isEmpty_iff] at hparts
  obtain ⟨hnumbers, hstrings, hpayloads⟩ := hparts
  refine ⟨r, hr, ?_, hpayloads, fun vm => ?_⟩
  · rw [wireLayout_iff_ascending, hpayloads]
    simp [Ascending, Payload.rank]
  · obtain ⟨tables, vm', hrun, -, htables⟩ := r.arguments_spec vm
    rw [hpayloads] at htables
    obtain ⟨first, rest, hfirst, hrest, rfl⟩ := List.forall₂_cons_left_iff.mp htables
    obtain ⟨second, rest, hsecond, hnil, rfl⟩ := List.forall₂_cons_left_iff.mp hrest
    cases hnil
    refine ⟨first, second, vm', ?_, hfirst, hsecond⟩
    rw [hrun, hnumbers, hstrings]
    rfl

end Request

end EventScripts
