import EventScripts.Script.Syntax
import EventScripts.Wire.Snapshots

/-!
# JSON forms of sources

A source is an array of steps, each an object with one member that names the kind of the step; an
expression is a value, or an object with one member that names the kind of the expression. Names
with dots stand for fields of global variables.
-/

set_option autoImplicit false

namespace EventScripts

namespace Json

mutual

/-- How deep a JSON value is nested. -/
def height : Json → Nat
  | .array items => 1 + itemsHeight items
  | .object members => 1 + membersHeight members
  | _ => 0

/-- How deep the deepest of the items is nested. -/
def itemsHeight : List Json → Nat
  | [] => 0
  | j :: js => max j.height (itemsHeight js)

/-- How deep the deepest of the members is nested. -/
def membersHeight : List (String × Json) → Nat
  | [] => 0
  | (_, j) :: ms => max j.height (membersHeight ms)

end

/-- The items of an array, none of anything else. -/
def items : Json → List Json
  | .array items => items
  | _ => []

/-- A whole number, zero for anything else. -/
def whole : Json → Int
  | .natural n => n
  | .negative n => -(n : Int)
  | _ => 0

end Json

namespace Script

/-- A global variable. -/
def globalNamed (name : String) : Expr := .global (textBytes name)

/-- A global variable, or a field of one, by its name with dots. -/
def Expr.ofName (name : String) : Expr :=
  match name.splitOn "." with
  | root :: parts =>
    parts.foldl (fun e part => .field e (.string (textBytes part))) (globalNamed root)
  | [] => globalNamed name

/-- A whole number as an expression. -/
def Expr.ofInt (i : Int) : Expr := .number (.integer (Int64.ofInt i))

/-- What does not compile, by its name. -/
def SyntaxFault.ofName? (name : String) : Option SyntaxFault :=
  [("paren", .paren), ("equals", .equals), ("string", .openText), ("goto", .jump),
    ("function", .openFunction)].lookup name

/-- A call of the function that puts a metatable on a table. -/
def Expr.withMeta (table : Expr) (handlers : List Entry) : Expr :=
  if handlers.isEmpty then table
  else .first (.call (globalNamed "setmetatable") [table, .table handlers])

mutual

/-- The expression that JSON denotes. The first argument bounds its depth. -/
def exprOf? : Nat → Json → Option Expr
  | 0, _ => none
  | depth + 1, j => match j with
    | .null => some .nil
    | .bool b => some (.boolean b)
    | .natural _ | .negative _ => some (.ofInt j.whole)
    | .string s => some (.string (textBytes s))
    | .object _ =>
      if j.has "int" then match j.member "int" with
        | .string s => s.toInt?.map .ofInt
        | _ => none
      else if j.has "num" then (j.member "num").toDouble?.map fun x => .number (.double x)
      else if j.has "hex" then j.toBytes?.map .string
      else if j.has "table" then do
        let entries ← (j.member "table").items.mapM (entryOf? depth)
        (handlersOf? depth j).map (Expr.withMeta (.table entries))
      else if j.has "list" then do
        let items ← (j.member "list").items.mapM (exprOf? depth)
        (handlersOf? depth j).map (Expr.withMeta (.table (items.map .item)))
      else if j.has "fn" then (stepsOf? depth (j.member "fn").items).map .function
      else if j.has "get" then pathOf? depth (j.member "get")
      else if j.has "arg" then
        some (.first (.call (globalNamed "select") [.ofInt (j.member "arg").whole, .arguments]))
      else if j.has "nargs" then
        some (.call (globalNamed "select") [.string (textBytes "#"), .arguments])
      else if j.has "varargs" then some .arguments
      else if j.has "at" then match j.member "at" with
        | .array [e, k] => do return .field (.first (← exprOf? depth e)) (← exprOf? depth k)
        | _ => none
      else if j.has "call" || j.has "method" then (callOf? depth j).map .first
      else if j.has "multi" then callOf? depth (j.member "multi")
      else if j.has "concat" then
        ((j.member "concat").items.mapM (exprOf? depth)).map .concat
      else if j.has "len" then (exprOf? depth (j.member "len")).map .length
      else if j.has "co" then some (.first (.call (.ofName "coroutine.create") [.idle]))
      else none
    | _ => none

/-- The entry that a pair of key and value denotes. -/
def entryOf? : Nat → Json → Option Entry
  | 0, _ => none
  | depth + 1, j => match j with
    | .array [k, v] => do return .keyed (← exprOf? depth k) (← exprOf? depth v)
    | _ => none

/-- The entries of the metatable that a table is written with. -/
def handlersOf? : Nat → Json → Option (List Entry)
  | 0, _ => none
  | depth + 1, j => (["index", "call", "tostring"].filter j.has).mapM fun name =>
    (exprOf? depth (j.member name)).map (.keyed (.string (textBytes ("__" ++ name))))

/-- The call that JSON denotes. -/
def callOf? : Nat → Json → Option Expr
  | 0, _ => none
  | depth + 1, j => match j.member "call", j.member "method" with
    | .array (f :: args), _ => do
      return .call (← pathOf? depth f) (← args.mapM (exprOf? depth))
    | _, .array (o :: .string name :: args) => do
      return .method (.first (← exprOf? depth o)) (textBytes name) (← args.mapM (exprOf? depth))
    | _, _ => none

/-- The variable or field that a path denotes. -/
def pathOf? : Nat → Json → Option Expr
  | 0, _ => none
  | depth + 1, j => match j with
    | .string name => some (.ofName name)
    | .array keys => (keys.mapM (exprOf? depth)).map fun keys =>
      keys.foldl .field (globalNamed "_G")
    | _ => none

/-- The step that JSON denotes. -/
def stepOf? : Nat → Json → Option Step
  | 0, _ => none
  | depth + 1, j =>
    if j.has "set" then do
      let value ← exprOf? depth (j.member "to")
      match ← pathOf? depth (j.member "set") with
      | .global name => some (.setGlobal name value)
      | .field t k => some (.setField t k value)
      | _ => none
    else if j.has "do" then (callOf? depth (j.member "do")).map .run
    else if j.has "return" then ((j.member "return").items.mapM (exprOf? depth)).map .leave
    else if j.has "error" then do
      let e ← exprOf? depth (j.member "error")
      let level := if j.has "level" then [Expr.ofInt (j.member "level").whole] else []
      some (.run (.call (globalNamed "error") (e :: level)))
    else if j.has "record" then
      ((j.member "record").items.mapM (exprOf? depth)).map fun args =>
        .run (.call (globalNamed "record") args)
    else if j.has "blank" then some (.blank (j.member "blank").whole.toNat)
    else match j.member "syntax" with
      | .string name => (SyntaxFault.ofName? name).map .faulty
      | _ => none

/-- The steps that JSON values denote. -/
def stepsOf? : Nat → List Json → Option (List Step)
  | 0, _ => none
  | depth + 1, js => js.mapM (stepOf? depth)

end

/-- The expression that JSON denotes. -/
def Expr.ofJson? (j : Json) : Option Expr := exprOf? (4 * j.height + 4) j

/-- The source that JSON denotes. -/
def sourceOfJson? (j : Json) : Option (List Step) := stepsOf? (4 * j.height + 4) j.items

end Script

end EventScripts
