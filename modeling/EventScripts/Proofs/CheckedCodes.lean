import EventScripts.Proofs.AfterStocking
import EventScripts.Proofs.LineAttribution

/-!
# Codes that are not OK are raised at the caller's line

`check` compares its argument with `error_code.eOK`, and raises the text that stands for it in
`error_desc`, or a text with the code itself. It raises at level two: the function that raises is
called from `check`, and `check` from the place that is blamed. So the chunk in which `check` itself
stands never shows.

Numbers are compared by their values and not by their kinds, and a double stands for the integer
that it is equal to, also as a key of `error_desc`. What is not a number is equal to no code.
-/

set_option autoImplicit false

namespace EventScripts

/-! ## Numbers that are whole -/

/-- A double that has parts is a number. -/
theorem Binary64.isNaN_eq_false {x : Float} {p : Binary64.Parts} (h : Binary64.parts x = some p) :
    x.isNaN = false := by
  have hfinite : x.toBits.toNat / Nat.pow 2 52 % Nat.pow 2 11 ≠ 2047 := by
    intro hspecial
    unfold Binary64.parts at h
    dsimp only at h
    rw [if_pos hspecial] at h
    cases h
  have hexponent : @Float.Model.UnpackedFloat.unpackExponent .binary64 x.toBits.toBitVec ≠
      -1#11 := by
    intro hall
    apply hfinite
    simpa [Float.Model.UnpackedFloat.unpackExponent, Nat.shiftRight_eq_div_pow] using
      congrArg BitVec.toNat hall
  unfold Float.isNaN Float.Model.isNaN Float.Model.unpack Float.Model.UnpackedFloat.unpack
  extract_lets mantissa bits
  rw [if_neg (show bits ≠ _ from hexponent)]
  by_cases hbits : bits = BitVec.ofNat _ 0
  · rw [if_pos hbits]
    by_cases hmantissa : mantissa = BitVec.ofNat _ 0
    · rw [dif_pos hmantissa]
      rfl
    · rw [dif_neg hmantissa]
      rfl
  · rw [if_neg hbits]
    rfl

namespace Script

/-- The integer of 64 bits that a number is equal to. -/
def wholeNumber? : Number → Option Int64
  | .integer i => some i
  | .double x => wholeInteger? x

/-- A number that is equal to an integer is the same key as this integer. -/
theorem ofValue?_number_iff {n : Number} {i : Int64} :
    Key.ofValue? (.number n) = some (.integer i) ↔ wholeNumber? n = some i := by
  cases n with
  | integer j => simp [Key.ofValue?, wholeNumber?]
  | double x =>
    unfold Key.ofValue? wholeNumber?
    dsimp only
    cases hwhole : wholeInteger? x with
    | none => split <;> simp
    | some j =>
      have hnumber : x.isNaN = false := by
        unfold wholeInteger? Binary64.whole? at hwhole
        cases hparts : Binary64.parts x with
        | none =>
          rw [hparts] at hwhole
          cases hwhole
        | some p => exact Binary64.isNaN_eq_false hparts
      rw [hnumber, if_neg Bool.false_ne_true]
      dsimp only
      rw [Option.some.injEq, Key.integer.injEq, Option.some.injEq]

/-- A number is equal to a whole one if both are equal to the same integer. -/
theorem same_number_iff {m n : Number} {i : Int64} (h : wholeNumber? m = some i) :
    Value.same (.number m) (.number n) = true ↔ wholeNumber? n = some i := by
  rw [← ofValue?_number_iff]
  unfold Value.same
  rw [ofValue?_number_iff.mpr h]
  cases Key.ofValue? (.number n) with
  | none => simp
  | some k =>
    rw [Option.some.injEq]
    exact beq_iff_eq.trans eq_comm

/-! ## The text of a code -/

/-- A text of ASCII characters has one byte for each of them. -/
theorem textBytes_ofList_ascii {cs : List Char} (h : ∀ c ∈ cs, c.toNat < 128) :
    textBytes (String.ofList cs) = asciiBytes cs := by
  unfold textBytes asciiBytes
  rw [String.toList_ofList]
  induction cs with
  | nil => rfl
  | cons c cs ih =>
    have hone : String.utf8EncodeChar c = [c.val.toUInt8] := by
      have hsmall : c.val.toNat ≤ 0x7F := Nat.le_of_lt_succ (h c List.mem_cons_self)
      unfold String.utf8EncodeChar
      dsimp only
      rw [if_pos hsmall]
      rfl
    rw [List.flatMap_cons, hone, ih fun d hd => h d (List.mem_cons_of_mem c hd)]
    rfl

/-- An integer is written in ASCII. -/
theorem integerText_ascii {i : Int} {c : Char} (h : c ∈ Number.integerText i) :
    c.toNat < 128 := by
  have hdigit : ∀ {n : Nat}, c ∈ Binary64.digits n → c.toNat < 128 := by
    intro n hc
    have hrange := isDigit_of_mem_digits hc
    simp only [Char.isDigit, Bool.and_eq_true, decide_eq_true_eq] at hrange
    exact Nat.lt_of_le_of_lt hrange.2 (by decide)
  unfold Number.integerText Binary64.signed at h
  split at h
  · rcases List.mem_cons.mp h with rfl | hc
    · decide
    · exact hdigit hc
  · exact hdigit h

/-- The text that the machine writes for an integer is its decimal one. -/
theorem toString_eq_integerText (i : Int) : toString i = String.ofList (Number.integerText i) := by
  cases i with
  | ofNat n => rfl
  | negSucc n =>
    have htext : Number.integerText (.negSucc n) = '-' :: Nat.toDigits 10 (n + 1) := by
      unfold Number.integerText Binary64.signed
      rw [if_pos (decide_eq_true (Int.negSucc_lt_zero n))]
      rfl
    have hrepr : toString (Int.negSucc n) = "-" ++ String.ofList (Nat.toDigits 10 (n + 1)) := rfl
    rw [htext, hrepr, ← String.toList_inj]
    simp

/-- An integer is written in decimal. -/
theorem bytes_integer (i : Int64) : Number.bytes (.integer i) = textBytes (toString i.toInt) := by
  rw [toString_eq_integerText, textBytes_ofList_ascii fun c hc => integerText_ascii hc]
  rfl

/-- Bytes without a percent sign stand for themselves in a format. -/
theorem fillFormat_append (call : Caller) (site : Site) (args : List Value) (place : Nat)
    {front : Bytes} (h : 0x25 ∉ front) (rest : Bytes) :
    fillFormat call site args place (front ++ rest) =
      (front ++ ·) <$> fillFormat call site args place rest := by
  induction front with
  | nil => simp
  | cons b front ih =>
    rw [List.mem_cons, not_or] at h
    have hb : b ≠ 0x25 := Ne.symm h.1
    rw [List.cons_append, fillFormat]
    · rw [ih h.2]
      simp
    all_goals
      intros
      contradiction

/-- The directive for an integer stands for the integer in decimal. -/
theorem run_fillFormat_integer {args : List Value} {place : Nat} {i : Int64} {site : Site} {vm : Vm}
    (hplace : place ≤ args.length)
    (h : Machine.run (integerArgument site "string.format" place args) vm = (.ok i, vm))
    (call : Caller) :
    Machine.run (fillFormat call site args place [0x25, 0x69]) vm =
      (.ok (textBytes (toString i.toInt)), vm) := by
  rw [fillFormat, if_neg (Nat.not_lt.mpr hplace), if_pos (by decide),
    Machine.run_bind_of_ok h, bytes_integer]
  · simp [fillFormat]
  · decide

/-- The text for a code without a description. -/
theorem run_format_unknownCode {n : Number} {i : Int64} (h : wholeNumber? n = some i)
    (call : Caller) (site : Site) (vm : Vm) :
    Machine.run (Basic.run call site .format
        [.string (textBytes "Unknown error code: %i"), .number n]) vm =
      (.ok [.string (textBytes "Unknown error code: " ++ textBytes (toString i.toInt))], vm) := by
  have hargument : Machine.run (integerArgument site "string.format" 2
      [.string (textBytes "Unknown error code: %i"), .number n]) vm = (.ok i, vm) := by
    cases n with
    | integer j =>
      cases h
      rfl
    | double x =>
      have hdouble : wholeInteger? x = some i := h
      simp [integerArgument, hdouble]
  have hsplit : textBytes "Unknown error code: %i" =
      textBytes "Unknown error code: " ++ [0x25, 0x69] := by decide
  have hfilled : Machine.run (fillFormat call site
      [.string (textBytes "Unknown error code: %i"), .number n] 2
      (textBytes "Unknown error code: %i")) vm =
        (.ok (textBytes "Unknown error code: " ++ textBytes (toString i.toInt)), vm) := by
    conv => lhs; rw [hsplit]
    rw [fillFormat_append _ _ _ _ (by decide), ← hsplit, Machine.run_map,
      run_fillFormat_integer (Nat.le_refl 2) hargument]
    rfl
  exact (Machine.run_bind_of_ok rfl _).trans (Machine.run_bind_of_ok hfilled _)

/-! ## The body of `check` -/

/-- What `check` relies on in a machine: the function itself, `error` and `string.format` are the
machine's own, `error_code` is a table with a number for success, `error_desc` is a table, and
neither of the two has a metatable. -/
structure Vm.Checks (vm : Vm) (check : Function) (ok : Number) (descriptions : Nat) : Prop where
  check : check.body = .script checkFunction
  error : ∃ f, vm.peek "error" = some (some (.function f)) ∧ f.basic? = some .error
  format : ∃ f, vm.peek "string.format" = some (some (.function f)) ∧ f.basic? = some .format
  code : ∃ ref, vm.peek "error_code" = some (some (.table ref)) ∧
    (vm.table ref).metatable = none ∧ (vm.table ref).get (.text "eOK") = .number ok
  description : vm.peek "error_desc" = some (some (.table descriptions)) ∧
    (vm.table descriptions).metatable = none

/-- What is raised for a code with a description: the description, unless it is nil or false. -/
def messageFor (i : Int64) (description : Value) : Value :=
  if description.truthy then description
  else .string (textBytes "Unknown error code: " ++ textBytes (toString i.toInt))

/-- A message that is raised with a position: a text has it in front. -/
def positioned (position : Bytes) : Value → Value
  | .string s => .string (position ++ s)
  | v => v

section

variable {vm : Vm}

/-- A global variable that can be read off the machine. -/
theorem Expr.run_global {v : Value} {name : String} (h : vm.peek name = some (some v))
    (hv : v ≠ .nil) (hname : segments name.toList = [name.toList]) (call : Caller) (fr : Frame)
    (line : Nat) :
    Machine.run ((Expr.global (textBytes name)).values call fr line) vm = (.ok [v], vm) := by
  unfold Vm.peek at h
  rw [hname] at h
  obtain ⟨ref, next, -, hfield, hlast⟩ := Vm.path_cons h
  rw [Vm.path_nil] at hlast
  cases hlast
  rw [String.ofList_toList] at hfield
  unfold Expr.values
  exact Machine.run_bind_of_ok (Machine.run_index_of_field hfield hv _ _ _) _

/-- A step that evaluates an expression raises what the expression raises. -/
theorem Step.run_run_of_error {e : Expr} {v : Value} {call : Caller} {fr : Frame} {line : Nat}
    {vm' : Vm} (h : Machine.run (e.values call fr line) vm = (.error v, vm')) :
    Machine.run ((Step.run e).take call fr line) vm = (.error v, vm') := by
  unfold Step.take
  show Machine.run (((fun _ => ()) <$> _) >>= _) vm = _
  rw [Machine.run_bind, Machine.run_map, h]
  rfl

/-- A field of a global variable that can be read off the machine. -/
theorem Expr.run_globalField {v : Value} {table name : String} {path : String}
    (h : vm.peek path = some (some v)) (hv : v ≠ .nil)
    (hpath : segments path.toList = [table.toList, name.toList])
    (call : Caller) (fr : Frame) (line : Nat) :
    Machine.run ((Check.globalField table name).values call fr line) vm = (.ok [v], vm) := by
  unfold Vm.peek at h
  rw [hpath] at h
  obtain ⟨ref, next, -, htable, hrest⟩ := Vm.path_cons h
  obtain ⟨inner, last, rfl, hfield, hlast⟩ := Vm.path_cons hrest
  rw [Vm.path_nil] at hlast
  cases hlast
  rw [String.ofList_toList] at htable hfield
  have hglobal : ∀ line, Machine.run ((Expr.global (textBytes table)).values call fr line) vm =
      (.ok [.table inner], vm) := by
    intro line
    unfold Expr.values
    exact Machine.run_bind_of_ok (Machine.run_index_of_field htable (by simp) _ _ _) _
  unfold Check.globalField Expr.values
  rw [Machine.run_bind_of_ok (hglobal line), Expr.values,
    Machine.run_bind_of_ok (Machine.run_pure _ vm)]
  exact Machine.run_bind_of_ok (Machine.run_index_of_field hfield hv _ _ _) _

/-- A call evaluates what is called and the arguments, and then calls. -/
theorem Expr.run_call {call : Caller} {fr : Frame} {line : Nat} {f : Expr} {args : List Expr}
    {g : Function} {vs values : List Value} {vm₁ vm' : Vm}
    (hf : Machine.run (f.values call fr line) vm = (.ok vs, vm₁)) (hg : Value.head vs = .function g)
    (hargs : Machine.run (exprsValues call fr (line + f.breaks) args) vm₁ = (.ok values, vm')) :
    Machine.run ((Expr.call f args).values call fr line) vm =
      Machine.run (call (fr.site (line + f.breaks) f.naming) g values) vm' := by
  unfold Expr.values
  rw [Machine.run_bind_of_ok hf, Machine.run_bind_of_ok hargs, hg,
    Machine.run_callValue_function]

/-- A field of a table without a metatable that a global variable has as its value. -/
theorem Expr.run_field_of_plain {ref : Nat} {name : String} {k : Expr} {key : Key} {kv : Value}
    {call : Caller} {fr : Frame} (hname : segments name.toList = [name.toList])
    (h : vm.peek name = some (some (.table ref))) (hplain : (vm.table ref).metatable = none)
    (hk : ∀ line, Machine.run (k.values call fr line) vm = (.ok [kv], vm))
    (hkey : Key.ofValue? kv = some key) (line : Nat) :
    Machine.run ((Expr.field (.global (textBytes name)) k).values call fr line) vm =
      (.ok [(vm.table ref).get key], vm) := by
  unfold Expr.values
  rw [Machine.run_bind_of_ok (Expr.run_global h (by simp) hname call fr line),
    Machine.run_bind_of_ok (hk _)]
  exact Machine.run_bind_of_ok (Machine.run_index_of_plain hplain hkey _ _ _) _

/-! The frame in which the body of `check` runs, called with a code. -/

variable {check : Function} {ok n : Number} {descriptions depth : Nat} {i : Int64} {fr : Frame}
  {rest : List Value}

/-- The condition of `check` compares the code with the one for success. -/
theorem Vm.Checks.run_differ (h : vm.Checks check ok descriptions) (hn : wholeNumber? n = some i)
    (hargs : fr.args = .number n :: rest) (call : Caller) (line : Nat) :
    Machine.run ((Expr.differ (.parameter 0)
      (Check.globalField "error_code" "eOK")).values call fr line) vm =
        (.ok [.boolean (decide (wholeNumber? ok ≠ some i))], vm) := by
  obtain ⟨ref, hpeek, hplain, hok⟩ := h.code
  have hcode : Machine.run ((Expr.parameter 0).values call fr line) vm =
      (.ok [.number n], vm) := by
    unfold Expr.values
    rw [hargs]
    rfl
  have hsuccess : Machine.run ((Check.globalField "error_code" "eOK").values call fr
      (line + (Expr.parameter 0).breaks)) vm = (.ok [.number ok], vm) := by
    rw [← hok]
    exact Expr.run_field_of_plain (by decide) hpeek hplain (fun _ => rfl) rfl _
  have hsame : Value.same (.number n) (.number ok) = decide (wholeNumber? ok = some i) := by
    rw [Bool.eq_iff_iff, same_number_iff hn, decide_eq_true_iff]
  have hequal : Machine.run (Machine.equal call (fr.site line none) (.number n) (.number ok)) vm =
      (.ok (decide (wholeNumber? ok = some i)), vm) := by
    rw [← hsame]
    rfl
  unfold Expr.values
  rw [Machine.run_bind_of_ok hcode, Machine.run_bind_of_ok hsuccess]
  refine (Machine.run_bind_of_ok hequal _).trans ?_
  rw [Machine.run_pure, decide_not]

/-- The text for a code without a description, as an expression of the body. -/
theorem Vm.Checks.run_unknownCode (h : vm.Checks check ok descriptions)
    (hn : wholeNumber? n = some i) (hargs : fr.args = .number n :: rest)
    (hroom : HasRoom fr.nested) (line : Nat) :
    Machine.run (Check.unknownCode.values (invokeTo (depth + 1)) fr line) vm =
      (.ok [.string (textBytes "Unknown error code: " ++ textBytes (toString i.toInt))], vm) := by
  obtain ⟨f, hpeek, hformat⟩ := h.format
  have hfunction : ∀ line, Machine.run ((Check.globalField "string" "format").values
      (invokeTo (depth + 1)) fr line) vm = (.ok [.function f], vm) := fun line =>
    Expr.run_globalField hpeek (by simp) (by decide) _ fr line
  have harguments : ∀ line, Machine.run (exprsValues (invokeTo (depth + 1)) fr line
      [.string (textBytes "Unknown error code: %i"), .parameter 0]) vm =
        (.ok [.string (textBytes "Unknown error code: %i"), .number n], vm) := by
    intro line
    unfold exprsValues exprsValues Expr.values
    rw [hargs]
    rfl
  have hcall : Machine.run ((Expr.call (Check.globalField "string" "format")
      [.string (textBytes "Unknown error code: %i"), .parameter 0]).values
        (invokeTo (depth + 1)) fr line) vm =
          (.ok [.string (textBytes "Unknown error code: " ++ textBytes (toString i.toInt))],
            vm) := by
    rw [Expr.run_call (hfunction line) rfl (harguments _),
      invokeTo_native (body_of_basic hformat) hroom]
    exact run_format_unknownCode hn _ _ vm
  unfold Check.unknownCode
  rw [Expr.values, Machine.run_bind_of_ok hcall]
  rfl

/-- What is raised is the description, or else the text with the code. -/
theorem Vm.Checks.run_message (h : vm.Checks check ok descriptions)
    (hn : wholeNumber? n = some i) (hargs : fr.args = .number n :: rest)
    (hroom : HasRoom fr.nested) (line : Nat) :
    Machine.run ((Expr.orElse (.field (.global (textBytes "error_desc")) (.parameter 0))
      (.nextLine Check.unknownCode)).values (invokeTo (depth + 1)) fr line) vm =
        (.ok [messageFor i ((vm.table descriptions).get (.integer i))], vm) := by
  obtain ⟨hpeek, hplain⟩ := h.description
  have hdescription : Machine.run ((Expr.field (.global (textBytes "error_desc"))
      (.parameter 0)).values (invokeTo (depth + 1)) fr line) vm =
        (.ok [(vm.table descriptions).get (.integer i)], vm) := by
    refine Expr.run_field_of_plain (by decide) hpeek hplain (fun line => ?_)
      (ofValue?_number_iff.mpr hn) line
    unfold Expr.values
    rw [hargs]
    rfl
  rw [Expr.values, Machine.run_bind_of_ok hdescription]
  unfold messageFor
  show Machine.run (if ((vm.table descriptions).get (.integer i)).truthy then _ else _) vm = _
  split
  · rfl
  · rw [Expr.values, Machine.run_bind_of_ok (h.run_unknownCode hn hargs hroom _)]
    rfl

/-- Raising at level two puts the position of the second frame in front of a text. -/
theorem run_raiseError_two (site : Site) (message : Value) (vm : Vm) :
    Machine.run (raiseError site [message, .number (.integer 2)]) vm =
      (.error (positioned (site.position 2) message), vm) := by
  have hlevel : Machine.run (integerArgumentOr site "error" 2
      [message, .number (.integer 2)] 1) vm = (.ok 2, vm) := rfl
  unfold raiseError
  rw [Machine.run_bind_of_ok hlevel]
  cases message <;> rfl

/-- The body raises its message at the place from which `check` was called. -/
theorem Vm.Checks.run_raise (h : vm.Checks check ok descriptions)
    (hn : wholeNumber? n = some i) (hargs : fr.args = .number n :: rest)
    (hroom : HasRoom fr.nested) {place : Place} {trail : List (Option Place)}
    (htrail : fr.trail = some place :: trail) (line : Nat) :
    Machine.run (Check.raise.take (invokeTo (depth + 1)) fr line) vm =
      (.error (positioned (positionText place.chunk place.line)
        (messageFor i ((vm.table descriptions).get (.integer i)))), vm) := by
  obtain ⟨f, hpeek, herror⟩ := h.error
  have hfunction := Expr.run_global hpeek (by simp) (by decide) (invokeTo (depth + 1)) fr line
  have hposition : ∀ line naming, (fr.site line naming).position 2 =
      positionText place.chunk place.line := by
    intro line naming
    unfold Frame.site Site.position
    rw [htrail]
    rfl
  have harguments : Machine.run (exprsValues (invokeTo (depth + 1)) fr
      (line + (Expr.global (textBytes "error")).breaks)
      [.orElse (.field (.global (textBytes "error_desc")) (.parameter 0))
        (.nextLine Check.unknownCode), .number (.integer 2)]) vm =
      (.ok [messageFor i ((vm.table descriptions).get (.integer i)), .number (.integer 2)],
        vm) := by
    rw [exprsValues, Machine.run_bind_of_ok (h.run_message hn hargs hroom _)]
    · unfold exprsValues Expr.values
      rfl
    · simp
  have hcall : Machine.run ((Expr.call (.global (textBytes "error"))
      [.orElse (.field (.global (textBytes "error_desc")) (.parameter 0))
        (.nextLine Check.unknownCode), .number (.integer 2)]).values
          (invokeTo (depth + 1)) fr line) vm =
      (.error (positioned (positionText place.chunk place.line)
        (messageFor i ((vm.table descriptions).get (.integer i)))), vm) := by
    rw [Expr.run_call hfunction rfl harguments, invokeTo_native (body_of_basic herror) hroom,
      ← hposition]
    exact run_raiseError_two _ _ vm
  exact Step.run_run_of_error hcall

/-- `check` returns nothing exactly for the code that is equal to the one for success, and raises
for any other one, at the place from which it is called. -/
theorem Vm.Checks.run_check (h : vm.Checks check ok descriptions) (hn : wholeNumber? n = some i)
    {site : Site} (hroom : HasRoom site.nested) {place : Place} {trail : List (Option Place)}
    (htrail : site.trail = some place :: trail) :
    Machine.run (invokeTo (depth + 2) site check (.number n :: rest)) vm =
      if wholeNumber? ok = some i then (.ok [], vm)
      else (.error (positioned (positionText place.chunk place.line)
        (messageFor i ((vm.table descriptions).get (.integer i)))), vm) := by
  let fr : Frame := ⟨chunkId (textBytes Check.label), .number n :: rest, site.trail, site.nested⟩
  have hargs : fr.args = .number n :: rest := rfl
  have hdiffer := h.run_differ hn hargs (invokeTo (depth + 1)) 3
  rw [invokeTo_script h.check hroom]
  unfold checkFunction Code.run
  rw [Machine.run_bind, runSteps, Machine.run_bind, Step.take,
    Machine.run_bind_of_ok hdiffer]
  by_cases hok : wholeNumber? ok = some i
  · simp [hok, Value.head, Value.truthy, runSteps]
  · have hbody : ∀ line, Machine.run (runSteps (invokeTo (depth + 1)) fr line [Check.raise]) vm =
        (.error (positioned (positionText place.chunk place.line)
          (messageFor i ((vm.table descriptions).get (.integer i)))), vm) := by
      intro line
      rw [runSteps, Machine.run_bind, h.run_raise hn rfl hroom htrail]
    rw [if_neg hok, decide_eq_true hok, Value.head, Value.truthy, if_pos rfl, hbody]

end

end Script

namespace World

open Script

variable {H : Type} [Host H]

/-- A call of `check` with a code, at a line of a chunk. The call returns, without results, exactly
if the code is equal to the one for success. Otherwise it raises an error; this is a text, the
position of the line in front, if the description is a text or is missing. If the chunk is editable
and this text reaches the host's protected call, the failure is recorded with the line. -/
theorem check_raises_at_the_line_of_its_call {vm₀ vm₁ vm : Vm} {check : Function} {ok c : Number}
    {descriptions depth line : Nat} {i : Int64} {fr : Frame} {label : String} {f : Expr}
    {args : List Expr} {vs rest : List Value} (h : vm.Checks check ok descriptions)
    (hc : wholeNumber? c = some i) (hchunk : fr.chunk = chunkId (textBytes label))
    (hroom : HasRoom fr.nested)
    (hf : Machine.run (f.values (invokeTo (depth + 2)) fr line) vm₀ = (.ok vs, vm₁))
    (hcheck : Value.head vs = .function check)
    (hargs : Machine.run (exprsValues (invokeTo (depth + 2)) fr (line + f.breaks) args) vm₁ =
      (.ok (.number c :: rest), vm)) :
    let called := Machine.run ((Expr.call f args).values (invokeTo (depth + 2)) fr line) vm₀
    let n := line + f.breaks
    let description := (vm.table descriptions).get (.integer i)
    ((∃ results vm', called = (.ok results, vm')) ↔ wholeNumber? ok = some i) ∧
    (wholeNumber? ok = some i → called = (.ok [], vm)) ∧
    (∀ s, wholeNumber? ok ≠ some i → description = .string s →
      called = (.error (.string (positionText (chunkId (textBytes label)) n ++ s)), vm)) ∧
    (wholeNumber? ok ≠ some i → description.truthy = false →
      called = (.error (.string (positionText (chunkId (textBytes label)) n ++
        (textBytes "Unknown error code: " ++ textBytes (toString i.toInt)))), vm)) ∧
    (∀ (w : World H) (shown : H → List Nat) (a : Action H) (g : Function) (values : List Value)
      (s : Bytes) (began ended : Vm),
      called = (.error (.string (positionText (chunkId (textBytes label)) n ++ s)), vm) →
      label ∈ editableLabels → n < UInt32.size → ShowsLines shown →
      (∀ live, w.session.engine.live = some live → live.invoker.Genuine) →
      w.Calls a g values began → OwnTraces began →
      Machine.run (protectedRun g values) (Invoker.begun began) =
        (.error (.string (positionText (chunkId (textBytes label)) n ++ s)), ended) →
      w.Records shown a (some n)) := by
  intro called n description
  have htrail : (fr.site n f.naming).trail = some ⟨fr.chunk, n⟩ :: fr.trail := rfl
  have hcalled : called = if wholeNumber? ok = some i then (.ok [], vm)
      else (.error (positioned (positionText fr.chunk n) (messageFor i description)), vm) :=
    (Expr.run_call hf hcheck hargs).trans (h.run_check hc hroom htrail)
  rw [hchunk] at hcalled
  refine ⟨?_, ?_, ?_, ?_, ?_⟩
  · rw [hcalled]
    split
    · next hok => exact iff_of_true ⟨[], vm, rfl⟩ hok
    · next hok => exact iff_of_false (by simp) hok
  · intro hok
    rw [hcalled, if_pos hok]
  · intro s hok hs
    rw [hcalled, if_neg hok, hs]
    rfl
  · intro hok hmissing
    rw [hcalled, if_neg hok, messageFor, hmissing]
    rfl
  · intro w shown a g values s began ended _ hlabel hline hshown hgenuine hcalls htraces hrun
    have hends : (fr.site n none).EndsIn 1 n := Frame.endsIn_site hlabel hchunk n none
    obtain ⟨label', hlabel', hposition⟩ := hends.position_eq
    have hblames : Blames n (.string (positionText (chunkId (textBytes label)) n ++ s)) := by
      refine ⟨fr.site n none, 1, s, hends, ?_⟩
      unfold Frame.site Site.position
      rw [hchunk]
      rfl
    have hfails : w.FailsAt n a := .call hcalls htraces hrun hblames
    obtain ⟨text, htext, hblamed⟩ := hfails.exists_failure hline hgenuine
    rw [← hblamed]
    exact records_of_failure hshown htext

/-- A new machine with `check`, with 0 as the code for success and a description of 30. -/
def coded : Vm :=
  let tables := (Vm.fresh.tables.push (.ofEntries [(.text "eOK", .number (.integer 0))])).push
    (.ofEntries [(.integer 30, .text "no such world")])
  let vm : Vm := { Vm.fresh with tables }
  ((vm.write Vm.globals (.text "error_code") (.table 14)).write Vm.globals
    (.text "error_desc") (.table 15)).write Vm.globals (.text "check")
      (.function ⟨1999, .script checkFunction⟩)

/-- An engine with this machine, and a document that wants errors on its console. -/
def coding : World where
  session :=
    { consoled.session with
      engine := { consoled.session.engine with
        live := some ⟨coded, ⟨114, .native (.basic .xpcall)⟩, ⟨103, .native (.basic .pcall)⟩⟩ } }
  tokens _ := .fresh

/-- A double that is equal to 30. -/
def thirty : Number := .double (Float.ofBits 0x403E000000000000)

/-- A plugin that calls `check` in its third line. -/
def checking : List Step :=
  [.blank 2, .run (.call (.global (textBytes "check")) [.number thirty])]

/-- A code that is a double is described, and the line of the call is shown. -/
theorem check_raises_at_the_line_of_its_call_coded :
    (coding.after (.execute checking "Plugin")).session.around.host.map Document.highlighted =
      some [3] := by
  let began : Vm := { coded.settled with nextId := coded.nextId + 1 }
  let fr : Frame := ⟨chunkId (textBytes "Plugin"), [], Site.outside.inner.trail, 2⟩
  have hchecks : began.Checks ⟨1999, .script checkFunction⟩ (.integer 0) 15 := {
    check := rfl
    error := ⟨_, rfl, rfl⟩
    format := ⟨_, rfl, rfl⟩
    code := ⟨_, rfl, rfl, rfl⟩
    description := ⟨rfl, rfl⟩ }
  have hwhole : wholeNumber? thirty = some 30 := by decide +kernel
  have hroom : HasRoom fr.nested := ⟨by decide, by decide⟩
  have hgenuine : ∀ live, coding.session.engine.live = some live → live.invoker.Genuine := by
    intro live hlive
    cases hlive
    exact ⟨rfl, rfl⟩
  have htraces : OwnTraces began := by
    intro handler hhandler
    cases hhandler
    rfl
  have hcallee : Machine.run ((Expr.global (textBytes "check")).values (invokeTo (996 + 2)) fr 3)
      began = (.ok [.function ⟨1999, .script checkFunction⟩], began) := rfl
  have hcode : Machine.run (exprsValues (invokeTo (996 + 2)) fr
      (3 + (Expr.global (textBytes "check")).breaks) [.number thirty]) began =
        (.ok [.number thirty], began) := rfl
  have hchunk : fr.chunk = chunkId (textBytes "Plugin") := rfl
  obtain ⟨-, -, hdescribed, -, hrecords⟩ := check_raises_at_the_line_of_its_call (H := Document)
    hchecks hwhole hchunk hroom hcallee rfl hcode
  have hraised := hdescribed (textBytes "no such world") (by decide) rfl
  have hbegun : Invoker.begun began = began := by
    refine Invoker.begun_of_peek ?_
    decide +kernel
  have hbody : protectedRun ⟨coded.nextId, .script ⟨fr.chunk, 1, checking⟩⟩ [] =
      Code.run (invokeTo (996 + 2)) Site.outside.inner ⟨fr.chunk, 1, checking⟩ [] := rfl
  have hran : Machine.run (protectedRun ⟨coded.nextId, .script ⟨fr.chunk, 1, checking⟩⟩ [])
      (Invoker.begun began) = (.error (.string (positionText (chunkId (textBytes "Plugin")) 3 ++
        textBytes "no such world")), began) := by
    have hstep : Machine.run (Step.take (invokeTo (996 + 2))
        ⟨fr.chunk, [], Site.outside.inner.trail, Site.outside.inner.nested⟩
        (1 + (Step.blank 2).lines)
        (.run (.call (.global (textBytes "check")) [.number thirty]))) began = _ :=
      Step.run_run_of_error hraised
    rw [hbegun, hbody]
    unfold Code.run checking
    rw [Machine.run_bind, runSteps, Step.take, Machine.run_bind_of_ok (Machine.run_pure none _)]
    dsimp only
    rw [runSteps, Machine.run_bind, hstep]
    rfl
  have hlive : coding.session.engine.live =
      some ⟨coded, ⟨114, .native (.basic .xpcall)⟩, ⟨103, .native (.basic .pcall)⟩⟩ := rfl
  have hload : load (textBytes "Plugin") checking = .ok ⟨fr.chunk, 1, checking⟩ := rfl
  have hcalls : coding.Calls (.execute checking "Plugin")
      ⟨coded.nextId, .script ⟨fr.chunk, 1, checking⟩⟩ [] began := .source hlive hload
  exact (hrecords coding Document.highlighted (.execute checking "Plugin") _ [] _ began began
    hraised (by decide) (by decide) Document.showsLines hgenuine hcalls htraces hran).shown

end World

end EventScripts
