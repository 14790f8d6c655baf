import EventScripts.Proofs.CallResults

/-!
# Dispatches of a text

A function that transforms a text is handed the bytes of the text and nothing else: the numbers,
texts and payloads of the request do not reach it, and make no difference to anything the dispatch
does. What the function returns first is taken byte for byte if it is a byte string, and as the
machine writes it if it is a number; anything else is no text.
-/

set_option autoImplicit false

namespace EventScripts

open Script

/-- What text the results of a call are. Only the first one is read. -/
inductive ReadsText : List Value → Option Bytes → Prop where
  | nothing : ReadsText [] none
  | string (s : Bytes) (rest : List Value) : ReadsText (.string s :: rest) (some s)
  | number (n : Number) (rest : List Value) : ReadsText (.number n :: rest) (some n.bytes)
  | other {v : Value} (rest : List Value) :
      v.typeName ∈ ["nil", "boolean", "table", "function", "thread", "userdata"] →
      ReadsText (v :: rest) none

/-- The text of results reads them as it should. -/
theorem readsText_resultText (values : List Value) : ReadsText values (resultText values) := by
  cases values with
  | nil => exact .nothing
  | cons v rest =>
    cases v with
    | number n => exact .number n rest
    | string s => exact .string s rest
    | nil | boolean | table | function | thread | object | fault =>
      exact .other rest (by simp [Value.typeName])

/-- There is one text that results are read as. -/
theorem readsText_iff (values : List Value) (result : Option Bytes) :
    ReadsText values result ↔ result = resultText values := by
  constructor
  · intro h
    cases h with
    | nothing => rfl
    | string s rest => rfl
    | number n rest => rfl
    | @other v rest hkind =>
      cases v with
      | number | string => simp [Value.typeName] at hkind
      | nil | boolean | table | function | thread | object | fault => rfl
  · rintro rfl
    exact readsText_resultText values

/-- A function returns the text that it is given, and may return more behind it. -/
def Echoes (f : Function) : Prop :=
  ∀ (text : Bytes) (vm : Vm), ∃ rest vm',
    Machine.run (protectedRun f [.string text]) vm = (.ok (.string text :: rest), vm')

/-- A function of a script that only returns its parameter is such a function. -/
theorem echoes_parameter (id : Nat) (chunk : Bytes) (line : Nat) :
    Echoes ⟨id, .script ⟨chunk, line, [.leave [.parameter 0]]⟩⟩ := by
  intro text vm
  exact ⟨[], vm, rfl⟩

namespace Operation

variable {H : Type} [Host H] {s : Session H} {token : Token} {r : Request} {text : Bytes}
  {live : Live} {f : Function} {args : List Value} {vm : Vm}

omit [Host H] in
/-- A function that a dispatch of a text calls is given this text alone, and any other text would
reach it just so. -/
theorem Reaches.of_text (h : Reaches s token r (pure (textArguments text)) live f args vm) :
    args = [.string text] ∧
      ∀ other, Reaches s token r (pure (textArguments other)) live f [.string other] vm := by
  obtain ⟨found, hfound, harguments⟩ := h.meets
  rw [Machine.run_pure] at harguments
  cases harguments
  exact ⟨rfl, fun other => ⟨h.opened, h.unbroken, ⟨found, hfound, Machine.run_pure _ _⟩⟩⟩

/-- A dispatch of a text answers what the results of the call are read as. -/
theorem answer_dispatchText_iff (s : Session H) (token : Token) (r : Request) (text : Bytes)
    (counter : Nat) (result : Option Bytes) :
    (s.answer (dispatchText token r text counter)).answer = .ok (.invoked result) ↔
      ∃ f values, Gives s token r (pure (textArguments text)) f [.string text] values ∧
        ReadsText values result := by
  unfold dispatchText
  rw [Session.answer_map, answer_map_invoked_iff]
  constructor
  · rintro ⟨values, hanswer, rfl⟩
    obtain ⟨f, args, live, vm, vm', hreaches, hcall⟩ :=
      (answer_callSite_invoked_iff _ _ _ _ _ _).mp hanswer
    obtain ⟨rfl, -⟩ := hreaches.of_text
    exact ⟨f, values, ⟨live, vm, vm', hreaches, hcall⟩, readsText_resultText values⟩
  · rintro ⟨f, values, hgives, hreads⟩
    refine ⟨values, (answer_callSite_invoked_iff _ _ _ _ _ _).mpr ⟨f, _, hgives⟩, ?_⟩
    exact ((readsText_iff values result).mp hreads).symm

/-- Text dispatches see only the text, and are exact to the byte. What a request asks for besides
the call itself changes neither the answer nor anything that is left. The function is given the text
as its one argument, and the answer is read off this call. A dispatch is invoked exactly if it calls
a function that gives values, which the function itself returned if the functions for protected
calls are the machine's own, and then answers the text that these are. A function that returns what
it is given is thus the identity on all byte strings. -/
theorem text_dispatches_see_only_the_text (s : Session H) (token : Token) (r : Request)
    (text : Bytes) (counter : Nat) :
    let arguments : Machine (List Value) := pure (textArguments text)
    (∀ q, r.SameCall q →
      s.answer (dispatchText token q text counter) =
        s.answer (dispatchText token r text counter) ∧
      s.after (dispatchText token q text counter) =
        s.after (dispatchText token r text counter)) ∧
    (∀ live f args vm, Reaches s token r arguments live f args vm → args = [.string text] ∧
      s.answer (dispatchText token r text counter) =
        ((SiteRun.ofCall
          (answerOf (Machine.run (live.invoker.call f [.string text]) vm).1)).dispatched
            (token.sync s.engine.generation) r counter).map resultText) ∧
    (∀ result, (s.answer (dispatchText token r text counter)).answer = .ok (.invoked result) ↔
      ∃ f values, Gives s token r arguments f [.string text] values ∧ ReadsText values result) ∧
    (OwnInvoker s → ∀ f args values, Gives s token r arguments f args values ↔
      Returns s token r arguments f args values) ∧
    (OwnInvoker s → ∀ live f args vm, Reaches s token r arguments live f args vm → Echoes f →
      ∀ other, (s.answer (dispatchText token r other counter)).answer =
        .ok (.invoked (some other))) := by
  intro arguments
  refine ⟨fun q hsame => ?_, fun live f args vm hreaches => ?_,
    answer_dispatchText_iff s token r text counter,
    fun hown f args values => gives_iff_returns hown, ?_⟩
  · unfold dispatchText
    rw [callSite_congr hsame]
    exact ⟨rfl, rfl⟩
  · obtain ⟨rfl, -⟩ := hreaches.of_text
    exact ⟨rfl, congrArg (Dispatched.map resultText) (hreaches.answer counter)⟩
  · intro hown live f args vm hreaches hechoes other
    obtain ⟨rest, vm', hrun⟩ := hechoes other (Invoker.begun vm)
    have hreturns : Returns s token r (pure (textArguments other)) f [.string other]
        (.string other :: rest) := ⟨live, vm, vm', hreaches.of_text.2 other, hrun⟩
    rw [answer_dispatchText_iff]
    exact ⟨f, _, (gives_iff_returns hown).mpr hreturns, .string other rest⟩

/-- A function that returns its parameter. -/
def echo : Function := ⟨1000, .script ⟨[], 1, [.leave [.parameter 0]]⟩⟩

/-- A NUL and a byte that is no character come back as they are, also when the request names a text
of its own. -/
theorem text_dispatches_see_only_the_text_echo :
    ((equipped echo).answer
      (dispatchText .fresh (calling.string "other") [0x61, 0x00, 0xFF] 0)).answer =
        .ok (.invoked (some [0x61, 0x00, 0xFF])) := by
  obtain ⟨hsame, -, -, -, hidentity⟩ :=
    text_dispatches_see_only_the_text (equipped echo) .fresh calling [0x61, 0x00, 0xFF] 0
  obtain ⟨live, vm, hreaches⟩ := exists_reaches_equipped echo
    (pure (textArguments [0x61, 0x00, 0xFF])) _ fun vm => Machine.run_pure _ vm
  rw [(hsame (calling.string "other") ⟨rfl, rfl, rfl, rfl⟩).1]
  exact hidentity (ownInvoker_equipped echo) live echo _ vm hreaches (echoes_parameter _ _ _) _

end Operation

end EventScripts
