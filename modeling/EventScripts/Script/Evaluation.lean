import EventScripts.Script.Access

/-!
# Evaluation of sources

`Expr.values` evaluates an expression to all its values, `Step.take` takes a step. Both follow the
tree and know the line at which the text of their part begins; how functions are called is an
argument, so a source without calls is evaluated without anything else.
-/

set_option autoImplicit false

namespace EventScripts

namespace Script

open Machine

/-- The call of a script function that is being run. -/
structure Frame where
  chunk : Bytes
  args : List Value
  /-- The frames around. -/
  trail : List (Option Place)
  nested : Nat

/-- A call from a line of the frame. -/
def Frame.site (fr : Frame) (line : Nat) (naming : Option Naming) : Site :=
  ⟨some ⟨fr.chunk, line⟩ :: fr.trail, naming, fr.nested⟩

/-- A call that takes the place of the frame. -/
def Frame.lastSite (fr : Frame) (naming : Option Naming) : Site :=
  ⟨fr.trail, naming, fr.nested⟩

/-- The largest number that names a field by its kind only. -/
def smallIndex : Int64 := 255

/-- What a field is called by its key. -/
def Expr.fieldNaming : Expr → Naming
  | .string s => ⟨"field", s⟩
  | .number (.integer i) =>
    if 0 ≤ i && i ≤ smallIndex then ⟨"field", textBytes "integer index"⟩
    else ⟨"field", textBytes "?"⟩
  | _ => ⟨"field", textBytes "?"⟩

/-- What an expression is called in messages. -/
def Expr.naming : Expr → Option Naming
  | .global n => some ⟨"global", n⟩
  | .field _ k => some k.fieldNaming
  | .first e => e.naming
  | .nextLine e => e.naming
  | _ => none

/-- Number of entries without a key. -/
def itemCount (entries : List Entry) : Nat :=
  entries.countP fun
    | .item _ => true
    | .keyed _ _ => false

/-- Sets values under the whole numbers from `i` on. -/
def setItems (i : Nat) (vs : List Value) (t : Table) : Table :=
  match vs with
  | [] => t
  | v :: vs => setItems (i + 1) vs (t.set (.integer (Int64.ofNat i)) v)

/-- The table of keyed entries, set in order, and of items, set after them. -/
def tableOf (slots : Nat) (keyed : List (Key × Value)) (items : List Value) : Table :=
  let t := keyed.foldl (fun t (k, v) => t.set k v)
    { Table.empty with slots := max slots items.length }
  setItems 1 items t

mutual

/-- All values of an expression whose text begins at `line`. -/
def Expr.values (call : Caller) (fr : Frame) (line : Nat) : Expr → Machine (List Value)
  | .nil => pure [.nil]
  | .boolean b => pure [.boolean b]
  | .number n => pure [.number n]
  | .string s => pure [.string s]
  | .table entries => do
    let (keyed, items) ← entryValues call fr line entries
    let t ← newTable (tableOf (itemCount entries) keyed items)
    pure [t]
  | .function body => do
    let f ← newFunction (.script ⟨fr.chunk, line + 1, body⟩)
    pure [f]
  | .global n => do
    let v ← index call (fr.site line none) none (.table Vm.globals) (.string n)
    pure [v]
  | .parameter place => pure [fr.args[place]?.getD .nil]
  | .arguments => pure fr.args
  | .field t k => do
    let tv ← t.values call fr line
    let kv ← k.values call fr (line + t.breaks)
    let v ← index call (fr.site (line + t.breaks + k.breaks) none) t.naming
      (Value.head tv) (Value.head kv)
    pure [v]
  | .call f args => do
    let fv ← f.values call fr line
    let avs ← exprsValues call fr (line + f.breaks) args
    callValue call (fr.site (line + f.breaks) f.naming) (Value.head fv) avs
  | .method o name args => do
    let ov ← o.values call fr line
    let site := fr.site (line + o.breaks) (some ⟨"method", name⟩)
    let f ← index call { site with naming := none } o.naming (Value.head ov) (.string name)
    let avs ← exprsValues call fr (line + o.breaks) args
    callValue call site f (Value.head ov :: avs)
  | .first e => do
    let vs ← e.values call fr line
    pure [Value.head vs]
  | .concat operands => do
    let vs ← operandValues call fr line operands
    let lastBreaks := (operands.getLast?.map Expr.breaks).getD 0
    let v ← joinAll call (fr.site (line + exprsBreaks operands - lastBreaks) none) vs
    pure [v]
  | .length e => do
    let vs ← e.values call fr line
    let n ← lengthOf call (fr.site line none) e.naming (Value.head vs)
    pure [n]
  | .differ a b => do
    let av ← a.values call fr line
    let bv ← b.values call fr (line + a.breaks)
    let same ← equal call (fr.site line none) (Value.head av) (Value.head bv)
    pure [.boolean !same]
  | .orElse a b => do
    let av ← a.values call fr line
    if (Value.head av).truthy then pure [Value.head av]
    else
      let bv ← b.values call fr (line + a.breaks)
      pure [Value.head bv]
  | .idle => do
    let f ← newFunction (.script ⟨fr.chunk, line, []⟩)
    pure [f]
  | .nextLine e => e.values call fr (line + 1)

/-- The values of a list of expressions: of each the first, of the last all. -/
def exprsValues (call : Caller) (fr : Frame) (line : Nat) : List Expr → Machine (List Value)
  | [] => pure []
  | [e] => e.values call fr line
  | e :: es => do
    let vs ← e.values call fr line
    let rest ← exprsValues call fr (line + e.breaks) es
    pure (Value.head vs :: rest)

/-- The first value of each operand, with what the operand is called. -/
def operandValues (call : Caller) (fr : Frame) (line : Nat) :
    List Expr → Machine (List (Value × Option Naming))
  | [] => pure []
  | e :: es => do
    let vs ← e.values call fr line
    let rest ← operandValues call fr (line + e.breaks) es
    pure ((Value.head vs, e.naming) :: rest)

/-- The keys and values of keyed entries, and the values of the items. -/
def entryValues (call : Caller) (fr : Frame) (line : Nat) :
    List Entry → Machine (List (Key × Value) × List Value)
  | [] => pure ([], [])
  | [.item e] => do
    let vs ← e.values call fr line
    pure ([], vs)
  | .item e :: es => do
    let vs ← e.values call fr line
    let (keyed, items) ← entryValues call fr (line + e.breaks) es
    pure (keyed, Value.head vs :: items)
  | .keyed k v :: es => do
    let kv ← k.values call fr line
    let vv ← v.values call fr (line + k.breaks)
    let key ← keyOf (fr.site (line + k.breaks + v.breaks) none) (Value.head kv)
    let (keyed, items) ← entryValues call fr (line + k.breaks + v.breaks) es
    pure ((key, Value.head vv) :: keyed, items)

end

/-- The results of a list of expressions. A single call takes the place of the frame, if it is
the call of a script function. -/
def leaveWith (call : Caller) (fr : Frame) (line : Nat) (results : List Expr) :
    Machine (List Value) := do
  match results with
  | [.call f args] =>
    let fv ← f.values call fr line
    let avs ← exprsValues call fr (line + f.breaks) args
    finish (fr.site (line + f.breaks) f.naming) (Value.head fv) avs
  | [.method o name args] =>
    let ov ← o.values call fr line
    let site := fr.site (line + o.breaks) (some ⟨"method", name⟩)
    let f ← index call { site with naming := none } o.naming (Value.head ov) (.string name)
    let avs ← exprsValues call fr (line + o.breaks) args
    finish site f (Value.head ov :: avs)
  | _ => exprsValues call fr line results
where
  /-- The call itself. -/
  finish (site : Site) (v : Value) (args : List Value) : Machine (List Value) := do
    let (f, args) ← callee site site.naming v args
    match f.body with
    | .script _ => call (fr.lastSite site.naming) f args
    | .native _ => call site f args

mutual

/-- Takes a step that begins at `line`; the results if it leaves the function. -/
def Step.take (call : Caller) (fr : Frame) (line : Nat) : Step → Machine (Option (List Value))
  | .setGlobal name e => do
    let vs ← e.values call fr line
    setIndex call (fr.site (line + e.breaks) none) none (.table Vm.globals) (.string name)
      (Value.head vs)
    pure none
  | .setField t k e => do
    let tv ← t.values call fr line
    let kv ← k.values call fr (line + t.breaks)
    let vs ← e.values call fr (line + t.breaks + k.breaks)
    setIndex call (fr.site (line + t.breaks + k.breaks + e.breaks) none) t.naming
      (Value.head tv) (Value.head kv) (Value.head vs)
    pure none
  | .run e => do
    discard (e.values call fr line)
    pure none
  | .leave results => some <$> leaveWith call fr line results
  | .when c body => do
    let vs ← c.values call fr line
    if (Value.head vs).truthy then runSteps call fr (line + c.breaks + 1) body else pure none
  | .blank _ => pure none
  | .faulty _ => pure none

/-- Takes steps until one leaves the function. -/
def runSteps (call : Caller) (fr : Frame) (line : Nat) :
    List Step → Machine (Option (List Value))
  | [] => pure none
  | s :: ss => do
    match ← s.take call fr line with
    | some results => pure (some results)
    | none => runSteps call fr (line + s.lines) ss

end

/-- Calls the function that has the code. -/
def Code.run (call : Caller) (site : Site) (code : Code) (args : List Value) :
    Machine (List Value) := do
  let results ← runSteps call ⟨code.chunk, args, site.trail, site.nested⟩ code.line code.body
  pure (results.getD [])

end Script

end EventScripts
