import Mathlib.Tactic.ByContra
import Mathlib.Tactic.SplitIfs
import EventScripts.Proofs.TextBytes
import EventScripts.Script.Compile

/-!
# Which sources do not load

Loading looks at a source as a whole: a step that does not compile stops it wherever it stands, also
inside functions, conditions, tables and arguments, and whatever stands in front of it. The only
other reason not to load is a NUL in the label. The fault that is told of is the first one in the
order of the text.
-/

set_option autoImplicit false

namespace EventScripts

/-! ## Labels -/

/-- Only the character NUL has a byte NUL. -/
theorem Utf8.nul_mem_utf8EncodeChar_iff (c : Char) :
    0 ∈ String.utf8EncodeChar c ↔ c = '\x00' := by
  constructor
  · intro h
    have hbound : c.val.toNat < 0x110000 := by
      have hvalid : c.val.toNat < 0xD800 ∨ 0xDFFF < c.val.toNat ∧ c.val.toNat < 0x110000 := c.valid
      omega
    have hzero : c.val.toNat = 0 := by
      unfold String.utf8EncodeChar at h
      dsimp only at h
      generalize c.val.toNat = v at h hbound
      split_ifs at h <;> simp [← UInt8.toNat_inj] at h <;> omega
    exact Char.ext (UInt32.toNat_inj.mp hzero)
  · rintro rfl
    decide

/-- The bytes of a text have a NUL if the text has. -/
theorem nul?_textBytes_eq_none_iff (text : String) :
    (textBytes text).nul? = none ↔ '\x00' ∉ text.toList := by
  unfold Bytes.nul? textBytes
  rw [List.findIdx?_eq_none_iff]
  constructor
  · intro h hnul
    have hbyte : (0 : UInt8) ∈ text.toList.flatMap String.utf8EncodeChar :=
      List.mem_flatMap.mpr ⟨_, hnul, (Utf8.nul_mem_utf8EncodeChar_iff _).mpr rfl⟩
    simpa using h 0 hbyte
  · intro h b hb
    obtain ⟨c, hc, hbc⟩ := List.mem_flatMap.mp hb
    rw [beq_eq_false_iff_ne]
    rintro rfl
    exact h ((Utf8.nul_mem_utf8EncodeChar_iff c).mp hbc ▸ hc)

namespace Script

/-! ## The steps of a source -/

/-- The fault of a step itself, apart from the steps inside it. -/
def Step.ownFault? : Step → Option SyntaxFault
  | .faulty f => some f
  | _ => none

mutual

/-- The steps in the text of an expression, at any depth, in the order of the text. -/
def Expr.steps : Expr → List Step
  | .table entries => entriesSteps entries
  | .function body => stepsWithin body
  | .field t k => t.steps ++ k.steps
  | .call f args => f.steps ++ exprsSteps args
  | .method o _ args => o.steps ++ exprsSteps args
  | .first e => e.steps
  | .concat es => exprsSteps es
  | .length e => e.steps
  | .differ a b => a.steps ++ b.steps
  | .orElse a b => a.steps ++ b.steps
  | .nextLine e => e.steps
  | _ => []

/-- The steps in the texts of expressions that follow each other. -/
def exprsSteps : List Expr → List Step
  | [] => []
  | e :: es => e.steps ++ exprsSteps es

/-- The steps in the texts of entries that follow each other. -/
def entriesSteps : List Entry → List Step
  | [] => []
  | .keyed k v :: es => (k.steps ++ v.steps) ++ entriesSteps es
  | .item v :: es => v.steps ++ entriesSteps es

/-- The steps in the text of a step, itself aside. -/
def Step.inner : Step → List Step
  | .setGlobal _ v => v.steps
  | .setField t k v => (t.steps ++ k.steps) ++ v.steps
  | .run e => e.steps
  | .leave es => exprsSteps es
  | .when c body => c.steps ++ stepsWithin body
  | .blank _ => []
  | .faulty _ => []

/-- The steps of a source, with all that are nested in them, in the order of the text. -/
def stepsWithin : List Step → List Step
  | [] => []
  | s :: ss => (s :: s.inner) ++ stepsWithin ss

end

/-! ## The first fault -/

-- The two mutual recursions follow the same text, so the proofs take the parts in its order. What
-- is left out of the statements is the line, which only `Expr.fault?` and its companions keep.
mutual

/-- The fault of an expression is the first one of the steps in its text. -/
theorem Expr.map_fault? (line : Nat) : ∀ e : Expr,
    (e.fault? line).map Prod.fst = e.steps.findSome? Step.ownFault?
  | .table entries => by
    rw [Expr.fault?, Expr.steps, map_entriesFault? line entries]
  | .function body => by
    rw [Expr.fault?, Expr.steps, map_stepsFault? (line + 1) body]
  | .field t k => by
    rw [Expr.fault?, Expr.steps, Option.map_or, List.findSome?_append, Expr.map_fault? line t,
      Expr.map_fault? _ k]
  | .call f args => by
    rw [Expr.fault?, Expr.steps, Option.map_or, List.findSome?_append, Expr.map_fault? line f,
      map_exprsFault? _ args]
  | .method o _ args => by
    rw [Expr.fault?, Expr.steps, Option.map_or, List.findSome?_append, Expr.map_fault? line o,
      map_exprsFault? _ args]
  | .first e => by rw [Expr.fault?, Expr.steps, Expr.map_fault? line e]
  | .concat es => by rw [Expr.fault?, Expr.steps, map_exprsFault? line es]
  | .length e => by rw [Expr.fault?, Expr.steps, Expr.map_fault? line e]
  | .differ a b => by
    rw [Expr.fault?, Expr.steps, Option.map_or, List.findSome?_append, Expr.map_fault? line a,
      Expr.map_fault? _ b]
  | .orElse a b => by
    rw [Expr.fault?, Expr.steps, Option.map_or, List.findSome?_append, Expr.map_fault? line a,
      Expr.map_fault? _ b]
  | .nextLine e => by rw [Expr.fault?, Expr.steps, Expr.map_fault? (line + 1) e]
  | .nil => rfl
  | .boolean _ => rfl
  | .number _ => rfl
  | .string _ => rfl
  | .global _ => rfl
  | .parameter _ => rfl
  | .arguments => rfl
  | .idle => rfl

/-- The fault of expressions is the first one of their steps. -/
theorem map_exprsFault? (line : Nat) : ∀ es : List Expr,
    (exprsFault? line es).map Prod.fst = (exprsSteps es).findSome? Step.ownFault?
  | [] => rfl
  | e :: es => by
    rw [exprsFault?, exprsSteps, Option.map_or, List.findSome?_append, Expr.map_fault? line e,
      map_exprsFault? _ es]

/-- The fault of entries is the first one of their steps. -/
theorem map_entriesFault? (line : Nat) : ∀ es : List Entry,
    (entriesFault? line es).map Prod.fst = (entriesSteps es).findSome? Step.ownFault?
  | [] => rfl
  | .keyed k v :: es => by
    rw [entriesFault?, entriesSteps, Option.map_or, Option.map_or, List.findSome?_append,
      List.findSome?_append, Expr.map_fault? line k, Expr.map_fault? _ v, map_entriesFault? _ es]
  | .item v :: es => by
    rw [entriesFault?, entriesSteps, Option.map_or, List.findSome?_append, Expr.map_fault? line v,
      map_entriesFault? _ es]

/-- The fault of a step is its own or the first one inside. -/
theorem Step.map_fault? (line : Nat) : ∀ s : Step,
    (s.fault? line).map Prod.fst = (s :: s.inner).findSome? Step.ownFault?
  | .setGlobal _ v => by
    rw [Step.fault?, Step.inner, Expr.map_fault? line v]
    rfl
  | .setField t k v => by
    rw [Step.fault?, Step.inner, Option.map_or, Option.map_or, Expr.map_fault? line t,
      Expr.map_fault? _ k, Expr.map_fault? _ v, ← List.findSome?_append, ← List.findSome?_append]
    rfl
  | .run e => by
    rw [Step.fault?, Step.inner, Expr.map_fault? line e]
    rfl
  | .leave es => by
    rw [Step.fault?, Step.inner, map_exprsFault? line es]
    rfl
  | .when c body => by
    rw [Step.fault?, Step.inner, Option.map_or, Expr.map_fault? line c, map_stepsFault? _ body,
      ← List.findSome?_append]
    rfl
  | .blank _ => rfl
  | .faulty _ => rfl

/-- The fault of a source is the first one of the steps within. -/
theorem map_stepsFault? (line : Nat) : ∀ ss : List Step,
    (stepsFault? line ss).map Prod.fst = (stepsWithin ss).findSome? Step.ownFault?
  | [] => rfl
  | s :: ss => by
    rw [stepsFault?, stepsWithin, Option.map_or, List.findSome?_append, Step.map_fault? line s,
      map_stepsFault? _ ss]

end

/-- A source has no fault if none of the steps within has one. -/
theorem stepsFault?_eq_none_iff (line : Nat) (source : List Step) :
    stepsFault? line source = none ↔ ∀ f, Step.faulty f ∉ stepsWithin source := by
  rw [← Option.map_eq_none_iff, map_stepsFault?, List.findSome?_eq_none_iff]
  constructor
  · intro h f hf
    cases h _ hf
  · intro h s hs
    cases s with
    | faulty f => exact absurd hs (h f)
    | _ => rfl

/-- A source does not load exactly if its label has a NUL or some step within it does not
compile. -/
theorem exists_load_error_iff (label : String) (source : List Step) :
    (∃ e, load (textBytes label) source = .error e) ↔
      '\x00' ∈ label.toList ∨ ∃ f, Step.faulty f ∈ stepsWithin source := by
  have hnul := nul?_textBytes_eq_none_iff label
  have hfault := stepsFault?_eq_none_iff 1 source
  unfold load
  cases hlabel : (textBytes label).nul? with
  | some place =>
    have hmem : '\x00' ∈ label.toList := by
      by_contra hno
      rw [hnul.mpr hno] at hlabel
      cases hlabel
    exact iff_of_true ⟨_, rfl⟩ (.inl hmem)
  | none =>
    have hno : '\x00' ∉ label.toList := hnul.mp hlabel
    rw [or_iff_right hno]
    dsimp only
    cases hfirst : stepsFault? 1 source with
    | some found =>
      refine iff_of_true ⟨_, rfl⟩ ?_
      by_contra hnone
      rw [hfault.mpr (not_exists.mp hnone)] at hfirst
      cases hfirst
    | none =>
      refine iff_of_false nofun ?_
      rintro ⟨f, hf⟩
      exact hfault.mp hfirst f hf

end Script

end EventScripts
