import EventScripts.Proofs.BlameGrammar
import EventScripts.Proofs.ProtectedCalls

/-!
# Traces do not change which line is blamed

What the machine's own function for traces makes of an error value is the text of the value up to
its first NUL byte, a line break and a trace; a value that is no text stays as it is or becomes a
trace alone. The line break and the NUL byte are ASCII, so what stands in front of them is read as
if nothing followed, and neither of them is a digit or belongs to the beginning of a message that
blames a line. So a message blames the same line with a trace and without one, whatever the trace
says, and also if it ends inside a beginning or inside the number.

A fault that was wrapped on its way out of native routines has its traces behind line breaks too.
-/

set_option autoImplicit false

namespace EventScripts

open Script

/-! ## An ASCII byte inside a byte string -/

namespace Utf8

/-- A character of which bytes have been read does not go on with an ASCII byte. -/
def AboveAscii (p : Option Partial) : Prop := ∀ q ∈ p, 0x80 ≤ q.low

/-- Between characters no byte is awaited. -/
theorem aboveAscii_none : AboveAscii none := nofun

/-- After a first byte none of ASCII is awaited. -/
theorem aboveAscii_of_lead {b : UInt8} {q : Partial} (h : lead b = .more q) :
    AboveAscii (some q) := by
  have hall : ∀ n < 256, (match lead (.ofNat n) with
      | .more q => decide (0x80 ≤ q.low)
      | _ => true) = true := by
    decide +kernel
  have hfirst := hall b.toNat b.toNat_lt
  rw [UInt8.ofNat_toNat, h] at hfirst
  rintro _ ⟨⟩
  exact of_decide_eq_true hfirst

/-- Nor is one after a further byte. -/
theorem aboveAscii_next (q : Partial) (b : UInt8) (k : Nat) : AboveAscii (some (q.next b k)) := by
  rintro _ ⟨⟩
  exact UInt8.le_refl 0x80

/-- An ASCII byte between characters is read as itself. -/
theorem lossyFrom_ascii_cons {b : UInt8} (h : b < 0x80) (rest : Bytes) :
    lossyFrom none (b :: rest) = Char.ofNat b.toNat :: lossyFrom none rest := by
  have hlead : lead b = .single (Char.ofNat b.toNat) := if_pos (UInt8.lt_iff_toNat_lt.mp h)
  rw [lossyFrom, hlead]

/-- A byte with which a character does not go on is read as if it stood between characters. -/
theorem lossyFrom_of_not_accepts {q : Partial} {b : UInt8} (h : ¬ q.accepts b = true)
    (rest : Bytes) :
    lossyFrom (some q) (b :: rest) = replacement :: lossyFrom none (b :: rest) :=
  if_neg h

/-- An ASCII byte is read as itself, and ends what is in front of it, even inside a character. -/
theorem lossyFrom_append_ascii {b : UInt8} (hb : b < 0x80) (bytes rest : Bytes)
    {p : Option Partial} (hp : AboveAscii p) :
    lossyFrom p (bytes ++ b :: rest) =
      lossyFrom p bytes ++ Char.ofNat b.toNat :: lossyFrom none rest := by
  induction bytes generalizing p with
  | nil =>
    rw [List.nil_append, ← lossyFrom_ascii_cons hb]
    cases p with
    | none => rfl
    | some q =>
      have hrefused : ¬ q.accepts b = true := by
        intro haccepts
        have hlow := of_decide_eq_true (Bool.and_eq_true_iff.mp haccepts).1
        exact absurd hb (UInt8.not_lt.mpr (UInt8.le_trans (hp q rfl) hlow))
      exact lossyFrom_of_not_accepts hrefused rest
  | cons c bytes ih =>
    have hbetween : lossyFrom none (c :: (bytes ++ b :: rest)) =
        lossyFrom none (c :: bytes) ++ Char.ofNat b.toNat :: lossyFrom none rest := by
      rw [lossyFrom, lossyFrom]
      cases hlead : lead c with
      | single d => exact congrArg (d :: ·) (ih aboveAscii_none)
      | more q => exact ih (aboveAscii_of_lead hlead)
      | stray => exact congrArg (replacement :: ·) (ih aboveAscii_none)
    rw [List.cons_append]
    cases p with
    | none => exact hbetween
    | some q =>
      by_cases haccepts : q.accepts c = true
      · rw [lossyFrom, lossyFrom, if_pos haccepts, if_pos haccepts]
        cases q.after with
        | zero => exact congrArg (Char.ofNat (q.push c) :: ·) (ih aboveAscii_none)
        | succ k => exact ih (aboveAscii_next q c k)
      · rw [lossyFrom_of_not_accepts haccepts, lossyFrom_of_not_accepts haccepts, hbetween]
        rfl

end Utf8

/-- A byte of ASCII ends what is read in front of it, also inside a character. -/
theorem toList_lossy_append_ascii {b : UInt8} (hb : b < 0x80) (bytes rest : Bytes) :
    (bytes ++ b :: rest).lossy.toList =
      bytes.lossy.toList ++ Char.ofNat b.toNat :: rest.lossy.toList := by
  unfold Bytes.lossy
  rw [String.toList_ofList, String.toList_ofList, String.toList_ofList]
  exact Utf8.lossyFrom_append_ascii hb bytes rest Utf8.aboveAscii_none

/-- A byte string has no NUL byte, or one comes behind its front. -/
theorem untilNul_cases (s : Bytes) :
    s.untilNul = s ∨ ∃ rest : Bytes, s = s.untilNul ++ 0 :: rest := by
  have hsplit : s.untilNul ++ s.dropWhile (· ≠ 0) = s := List.takeWhile_append_dropWhile
  cases hrest : s.dropWhile (· ≠ 0) with
  | nil =>
    rw [hrest, List.append_nil] at hsplit
    exact .inl hsplit
  | cons b rest =>
    have hstop := List.head?_dropWhile_not (· ≠ 0) s
    rw [hrest, List.head?_cons] at hstop
    have hnul : b = 0 := by simpa using hstop
    subst hnul
    rw [hrest] at hsplit
    exact .inr ⟨rest, hsplit.symm⟩

/-- The text of a byte string is the text of its front, and goes on with a NUL if it has one. -/
theorem lossy_untilNul_cases (s : Bytes) :
    s.untilNul = s ∨ ∃ rest, s.lossy.toList = s.untilNul.lossy.toList ++ '\x00' :: rest := by
  rcases untilNul_cases s with hwhole | ⟨rest, hrest⟩
  · exact .inl hwhole
  · have hcut := toList_lossy_append_ascii (b := 0) (by decide) s.untilNul rest
    rw [← hrest] at hcut
    exact .inr ⟨_, hcut⟩

/-! ## What follows a message -/

/-- A character that is no digit and belongs to none of the beginnings of messages that blame a
line. -/
structure EndsPosition (c : Char) : Prop where
  not_digit : c ∉ tenDigits
  not_start : ∀ start, EditableStart start → c ∉ start.toList

/-- A line break is such a character. -/
theorem endsPosition_newline : EndsPosition '\n' := by
  refine ⟨by decide, ?_⟩
  rintro _ (_ | _) <;> decide

/-- So is NUL. -/
theorem endsPosition_nul : EndsPosition '\x00' := by
  refine ⟨by decide, ?_⟩
  rintro _ (_ | _) <;> decide

/-- What comes behind such a character does not complete a beginning. -/
theorem prefix_of_prefix_append_cons {start cs rest : List Char} {c : Char} (hc : c ∉ start)
    (h : start <+: cs ++ c :: rest) : start <+: cs := by
  rcases List.prefix_or_prefix_of_prefix h (List.prefix_append cs (c :: rest)) with hin | hbeyond
  · exact hin
  · obtain ⟨_ | ⟨d, more⟩, rfl⟩ := hbeyond
    · simp only [List.append_nil, List.prefix_rfl]
    · obtain ⟨_, hsame⟩ := h
      rw [List.append_assoc, List.append_cancel_left_eq, List.cons_append] at hsame
      cases hsame
      exact absurd (List.mem_append_right cs List.mem_cons_self) hc

/-- Behind digits, such a character adds none. -/
theorem DigitRun.append_cons {ds after rest : List Char} {c : Char} (h : DigitRun ds after)
    (hc : c ∉ tenDigits) : DigitRun ds (after ++ c :: rest) := by
  refine ⟨h.digits, ?_⟩
  cases after with
  | nil =>
    rintro _ ⟨⟩
    exact hc
  | cons d after => exact h.ends

/-- A message that goes on behind such a character blames what it did. -/
theorem MessageBlame.append_cons {cs rest : List Char} {r : Option Nat} {c : Char}
    (h : MessageBlame cs r) (hc : EndsPosition c) : MessageBlame (cs ++ c :: rest) r := by
  cases h with
  | nothing hnone =>
    refine .nothing fun start hstart hprefix => hnone start hstart ?_
    exact prefix_of_prefix_append_cons (hc.not_start start hstart) hprefix
  | line hstart hrun hsome hfits =>
    rw [List.append_assoc, List.append_assoc]
    exact .line hstart (hrun.append_cons hc.not_digit) hsome hfits
  | unnumbered hstart hrun =>
    rw [List.append_assoc]
    exact .unnumbered hstart (hrun.append_cons hc.not_digit)
  | tooLarge hstart hrun hlarge =>
    rw [List.append_assoc, List.append_assoc]
    exact .tooLarge hstart (hrun.append_cons hc.not_digit) hlarge

/-- Texts blame the same line if one of them goes on behind such a character. -/
theorem errorLine?_of_goesOn {s t : String} {c : Char} {rest : List Char} (hc : EndsPosition c)
    (h : t.toList = s.toList ++ c :: rest) : errorLine? t = errorLine? s := by
  have hblame : MessageBlame s.toList (errorLine? s) := blame_iff_errorLine?.mpr rfl
  rw [← blame_iff_errorLine?, h]
  exact hblame.append_cons hc

/-! ## Errors with a trace -/

namespace Script

/-- What the machine's own function for traces makes of an error value, if the trace is this one. -/
def withTrace (trace : Bytes) : Value → Value
  | .nil | .thread _ => .string trace
  | .string s => .string (s.untilNul ++ textBytes "\n" ++ trace)
  | .number n => .string (n.bytes.untilNul ++ textBytes "\n" ++ trace)
  | e => e

/-- The machine's own function for traces gives the value with its trace. -/
theorem head_tracedMessage (e : Value) :
    Value.head (tracedMessage [e]) = withTrace (textBytes traceMark) e := by
  cases e <;> rfl

/-- A message that is cut at its first NUL byte and gets a trace, as a text. -/
theorem toList_lossy_traced (s trace : Bytes) :
    (s.untilNul ++ textBytes "\n" ++ trace).lossy.toList =
      s.untilNul.lossy.toList ++ '\n' :: trace.lossy.toList := by
  have hbreak : textBytes "\n" = [0x0A] := by decide
  rw [hbreak, List.append_assoc, List.singleton_append]
  exact toList_lossy_append_ascii (by decide) s.untilNul trace

/-- A message with a trace blames the line that it blames without one. -/
theorem errorLine?_traced (s trace : Bytes) :
    errorLine? (s.untilNul ++ textBytes "\n" ++ trace).lossy = errorLine? s.lossy := by
  rw [errorLine?_of_goesOn endsPosition_newline (toList_lossy_traced s trace)]
  rcases lossy_untilNul_cases s with hwhole | ⟨rest, hrest⟩
  · rw [hwhole]
  · exact (errorLine?_of_goesOn endsPosition_nul hrest).symm

/-- A message with a trace begins with the message up to its first NUL. -/
theorem takeWhile_prefix_traced (s trace : Bytes) :
    s.lossy.toList.takeWhile (· ≠ '\x00') <+:
      (s.untilNul ++ textBytes "\n" ++ trace).lossy.toList := by
  have hfront : s.lossy.toList.takeWhile (· ≠ '\x00') <+: s.untilNul.lossy.toList := by
    rcases lossy_untilNul_cases s with hwhole | ⟨rest, hrest⟩
    · rw [hwhole]
      exact List.takeWhile_prefix _
    · have hend : ('\x00' :: rest).takeWhile (· ≠ '\x00') = [] := rfl
      rw [hrest, List.takeWhile_append, hend]
      split
      · simp only [List.append_nil, List.prefix_rfl]
      · exact List.takeWhile_prefix _
  rw [toList_lossy_traced]
  exact hfront.trans (List.prefix_append _ _)

/-- An error value blames the same line with a trace and without one, if the trace does not blame
one by itself. -/
theorem errorLine?_withTrace {trace : Bytes} (htrace : errorLine? trace.lossy = none) (e : Value) :
    errorLine? (describeError (some (withTrace trace e))) =
      errorLine? (describeError (some e)) := by
  have hnothing : errorLine? "" = none := by decide
  have hthread : errorLine? "(error object is a thread value)" = none := by decide
  cases e with
  | nil => exact htrace.trans hnothing.symm
  | thread ref => exact htrace.trans hthread.symm
  | string s => exact errorLine?_traced s trace
  | number n => exact errorLine?_traced n.bytes trace
  | _ => rfl

/-! ## Calls of the host -/

/-- When a call of the host starts, `debug.traceback` is the machine's own function for traces. -/
def Vm.HasTraceback (vm : Vm) : Prop :=
  ∃ handler, (Machine.run (lookupFunction "debug.traceback") vm).1 = .ok (some handler) ∧
    handler.basic? = some .traceback

/-- When a call of the host starts, no function is `debug.traceback`. -/
def Vm.LacksTraceback (vm : Vm) : Prop :=
  (Machine.run (lookupFunction "debug.traceback") vm).1 = .ok none

/-- There is no such function without a global variable `debug`. -/
theorem Vm.lacksTraceback_of_absent {vm : Vm}
    (hmetatable : (vm.table Vm.globals).metatable = none)
    (habsent : (vm.table Vm.globals).get (.text "debug") = .nil) : vm.LacksTraceback := by
  have hfield : vm.field (.text "debug") Machine.chainLimit (.table Vm.globals) = some .nil := by
    have hentry : vm.entry Vm.globals (.text "debug") = .nil := habsent
    have hprovides : vm.provides (.table Vm.globals) "__index" = .nil := by
      unfold Vm.provides
      dsimp only
      rw [hmetatable]
    unfold Machine.chainLimit Vm.field
    dsimp only
    rw [hentry, hprovides]
  have hpeek : vm.peek "debug.traceback" = some none := by
    have hparts : segments "debug.traceback".toList = ["debug".toList, "traceback".toList] := by
      decide
    have hname : String.ofList "debug".toList = "debug" := String.ofList_toList
    unfold Vm.peek
    rw [hparts]
    unfold Vm.path
    dsimp only
    rw [if_neg (by decide), hname, hfield]
    rfl
  unfold Vm.LacksTraceback
  rw [run_lookupFunction_of_peek hpeek]
  rfl

/-- An error escapes a function that the host calls in a machine. -/
def Escapes (vm : Vm) (f : Function) (args : List Value) (e : Value) : Prop :=
  ∃ vm', Machine.run (protectedRun f args) (Invoker.begun vm) = (.error e, vm')

/-- Every value can be such an error: a script raises it at level zero. -/
theorem escapes_error (vm : Vm) (id : Nat) (e : Value) :
    Escapes vm ⟨id, .native (.basic .error)⟩ [e, .integer 0] e := by
  refine ⟨Invoker.begun vm, ?_⟩
  cases e <;> rfl

namespace Invoker

/-- A call of the host gives the text of an error. -/
def Tells (inv : Invoker) (vm : Vm) (f : Function) (args : List Value) (text : String) : Prop :=
  ∃ vm', Machine.run (inv.call f args) vm = (.ok (.error text), vm')

variable {inv : Invoker} {vm : Vm} {f : Function} {args : List Value} {e : Value}

/-- With the machine's own function for traces the error is told with a trace. -/
theorem tells_of_hasTraceback (h : inv.Genuine) (htraceback : vm.HasTraceback)
    (hescapes : Escapes vm f args e) :
    inv.Tells vm f args (describeError (some (withTrace (textBytes traceMark) e))) := by
  obtain ⟨handler, hlookup, hown⟩ := htraceback
  obtain ⟨vm', hrun⟩ := hescapes
  obtain ⟨shown, vm'', hshows, hcall⟩ := (run_call_of_genuine h f args vm).2 e vm' hrun
  unfold Shows at hshows
  rw [hlookup] at hshows
  rw [← head_tracedMessage, ← hshows hown]
  exact ⟨vm'', hcall⟩

/-- Without a function for traces the error is told as it is. -/
theorem tells_of_lacksTraceback (h : inv.Genuine) (htraceback : vm.LacksTraceback)
    (hescapes : Escapes vm f args e) : inv.Tells vm f args (describeError (some e)) := by
  obtain ⟨vm', hrun⟩ := hescapes
  obtain ⟨shown, vm'', hshows, hcall⟩ := (run_call_of_genuine h f args vm).2 e vm' hrun
  have hsame : shown = e := by
    unfold Shows at hshows
    rw [htraceback] at hshows
    exact hshows
  rw [← hsame]
  exact ⟨vm'', hcall⟩

end Invoker

/-- The text of a text or a number, up to its first NUL, begins the text that it has with a
trace. -/
theorem takeWhile_prefix_withTrace {e : Value} (h : e.typeName ∈ ["string", "number"])
    (trace : Bytes) :
    (describeError (some e)).toList.takeWhile (· ≠ '\x00') <+:
      (describeError (some (withTrace trace e))).toList := by
  cases e with
  | string s => exact takeWhile_prefix_traced s trace
  | number n => exact takeWhile_prefix_traced n.bytes trace
  | _ => simp [Value.typeName] at h

end Script

/-! ## Wrapped faults -/

namespace Fault

/-- A fault that was wrapped with traces, the innermost first. -/
def wrapIn (cause : Fault) (traces : List String) : Fault :=
  traces.foldl (fun f trace => .wrapped trace f) cause

/-- The last trace is the outermost. -/
theorem wrapIn_append_singleton (cause : Fault) (traces : List String) (trace : String) :
    cause.wrapIn (traces ++ [trace]) = .wrapped trace (cause.wrapIn traces) := by
  unfold wrapIn
  rw [List.foldl_append]
  rfl

/-- A wrapped fault has the text of its cause, and then each trace behind a line break. -/
theorem text_wrapIn (cause : Fault) (traces : List String) :
    (cause.wrapIn traces).text = cause.text ++ String.join (traces.map ("\n" ++ ·)) := by
  induction traces using List.reverseRecOn with
  | nil => exact (String.append_empty).symm
  | append_singleton traces trace ih =>
    rw [wrapIn_append_singleton, text, ih, List.map_append, String.join_append, String.append_assoc,
      String.append_assoc]
    rfl

/-- Every fault is a cause that is not wrapped, in the layers around it. -/
theorem exists_wrapIn (f : Fault) :
    ∃ (cause : Fault) (traces : List String),
      (∀ trace inner, cause ≠ .wrapped trace inner) ∧ f = cause.wrapIn traces := by
  induction f with
  | wrapped trace inner ih =>
    obtain ⟨cause, traces, hbare, rfl⟩ := ih
    exact ⟨cause, traces ++ [trace], hbare, (cause.wrapIn_append_singleton traces trace).symm⟩
  | _ => exact ⟨_, [], by rintro _ _ ⟨⟩, rfl⟩

/-- A wrapped fault blames the line that its cause blames. -/
theorem errorLine?_wrapIn (cause : Fault) (traces : List String) :
    errorLine? (cause.wrapIn traces).text = errorLine? cause.text := by
  induction traces using List.reverseRecOn with
  | nil => rfl
  | append_singleton traces trace ih =>
    have hlist : (cause.wrapIn (traces ++ [trace])).text.toList =
        (cause.wrapIn traces).text.toList ++ '\n' :: trace.toList := by
      rw [wrapIn_append_singleton, text, String.toList_append, String.toList_append,
        List.append_assoc]
      rfl
    rw [errorLine?_of_goesOn endsPosition_newline hlist, ih]

end Fault

/-- Traces do not change which line is blamed. Any error value may escape a function that the host
calls. The text of the call in a machine that has its own function for traces and the text of the
call in a machine without one blame the same line, or both none; if the value is a text or a number,
the former begins with the latter up to its first NUL. That holds whatever the trace says, if it
blames no line by itself. A fault in layers has the text of its cause, and then the trace of each
layer behind a line break, the innermost first; it blames the line that its cause blames. -/
theorem traces_keep_the_blamed_line :
    (∀ (vm : Vm) (e : Value), ∃ f args, Escapes vm f args e) ∧
    (∀ (inv inv' : Invoker) (vm vm' : Vm) (f f' : Function) (args args' : List Value) (e : Value),
      inv.Genuine → inv'.Genuine → vm.HasTraceback → vm'.LacksTraceback →
      Escapes vm f args e → Escapes vm' f' args' e →
      ∃ traced plain, inv.Tells vm f args traced ∧ inv'.Tells vm' f' args' plain ∧
        errorLine? traced = errorLine? plain ∧
        (e.typeName ∈ ["string", "number"] →
          plain.toList.takeWhile (· ≠ '\x00') <+: traced.toList)) ∧
    (∀ (trace : Bytes) (e : Value), errorLine? trace.lossy = none →
      errorLine? (describeError (some (withTrace trace e))) =
        errorLine? (describeError (some e))) ∧
    (∀ fault : Fault, ∃ (cause : Fault) (traces : List String),
      (∀ trace inner, cause ≠ .wrapped trace inner) ∧ fault = cause.wrapIn traces) ∧
    (∀ (cause : Fault) (traces : List String),
      (cause.wrapIn traces).text = cause.text ++ String.join (traces.map ("\n" ++ ·)) ∧
      errorLine? (cause.wrapIn traces).text = errorLine? cause.text) := by
  have hmark : errorLine? (textBytes traceMark).lossy = none := by decide
  refine ⟨fun vm e => ⟨_, _, escapes_error vm 0 e⟩, ?_, fun trace e htrace =>
    errorLine?_withTrace htrace e, Fault.exists_wrapIn, fun cause traces =>
    ⟨cause.text_wrapIn traces, cause.errorLine?_wrapIn traces⟩⟩
  intro inv inv' vm vm' f f' args args' e hgenuine hgenuine' htraceback hnone hescapes hescapes'
  exact ⟨_, _, Invoker.tells_of_hasTraceback hgenuine htraceback hescapes,
    Invoker.tells_of_lacksTraceback hgenuine' hnone hescapes', errorLine?_withTrace hmark e,
    fun htext => takeWhile_prefix_withTrace htext _⟩

/-- A message that ends inside the number of its line with a NUL byte and half a character, in a new
machine and in one from which a script has taken the debug library. -/
theorem traces_keep_the_blamed_line_cut_inside_the_number :
    let inv : Invoker := ⟨⟨114, .native (.basic .xpcall)⟩, ⟨103, .native (.basic .pcall)⟩⟩
    let bare := (Machine.run (Machine.rawSetGlobal "debug" .nil) Vm.fresh).2
    let e := Value.string (textBytes "[string \"Plugin\"]:12" ++ [0x00, 0x33, 0xE2, 0x82])
    let raise : Function := ⟨0, .native (.basic .error)⟩
    inv.Genuine ∧ Vm.fresh.HasTraceback ∧ bare.LacksTraceback ∧
      Escapes Vm.fresh raise [e, .integer 0] e ∧ Escapes bare raise [e, .integer 0] e ∧
      errorLine? (textBytes traceMark).lossy = none ∧
      ∃ traced plain, inv.Tells Vm.fresh raise [e, .integer 0] traced ∧
        inv.Tells bare raise [e, .integer 0] plain ∧ errorLine? traced = errorLine? plain ∧
        plain.toList.takeWhile (· ≠ '\x00') <+: traced.toList ∧
        errorLine? (describeError (some (withTrace (textBytes traceMark) e))) = some 12 := by
  intro inv bare e raise
  obtain ⟨-, hcalls, hanyTrace, -, -⟩ := traces_keep_the_blamed_line
  have hgenuine : inv.Genuine := ⟨rfl, rfl⟩
  have htraceback : Vm.fresh.HasTraceback := ⟨_, rfl, rfl⟩
  have hnone : bare.LacksTraceback := Vm.lacksTraceback_of_absent rfl rfl
  have hmark : errorLine? (textBytes traceMark).lossy = none := by decide
  have hline : errorLine? (describeError (some e)) = some 12 := by decide
  obtain ⟨traced, plain, htraced, hplain, hsame, hfront⟩ := hcalls inv inv Vm.fresh bare raise raise
    [e, .integer 0] [e, .integer 0] e hgenuine hgenuine htraceback hnone
    (escapes_error Vm.fresh 0 e) (escapes_error bare 0 e)
  exact ⟨hgenuine, htraceback, hnone, escapes_error Vm.fresh 0 e, escapes_error bare 0 e, hmark,
    traced, plain, htraced, hplain, hsame, hfront List.mem_cons_self,
    (hanyTrace _ e hmark).trans hline⟩

end EventScripts
