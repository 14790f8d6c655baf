import EventScripts.Bytes
import EventScripts.Number.Numeral

/-!
# Script sources

A script source is a list of steps. Each step starts a line of its own, a function body takes the
lines between `function` and `end`, and everything else stays on one line, so the tree fixes the
line of every part: `Expr.breaks` and `Step.lines` count the line breaks. Blank lines and steps
that do not compile are part of a source like any other step.
-/

set_option autoImplicit false

namespace EventScripts

namespace Script

/-- What makes a line of source fail to compile. -/
inductive SyntaxFault where
  /-- A closing parenthesis where an expression should stand. -/
  | paren
  /-- An equals sign where an expression should stand. -/
  | equals
  /-- A text without its closing quote. -/
  | openText
  /-- A jump to a label that is nowhere. -/
  | jump
  /-- A parameter list that the end of the source cuts off. -/
  | openFunction
  deriving DecidableEq

mutual

/-- An expression. -/
inductive Expr where
  | nil
  | boolean (b : Bool)
  | number (n : Number)
  | string (s : Bytes)
  /-- A table of the given entries. -/
  | table (entries : List Entry)
  /-- A new function. -/
  | function (body : List Step)
  /-- A global variable. -/
  | global (name : Bytes)
  /-- A named parameter: the argument at this place, counted from zero. -/
  | parameter (place : Nat)
  /-- All arguments of the function around. -/
  | arguments
  /-- The field of a table. -/
  | field (table key : Expr)
  /-- A call, with all its results. -/
  | call (function : Expr) (args : List Expr)
  /-- A call of the method `name` of an object, with all its results. -/
  | method (object : Expr) (name : Bytes) (args : List Expr)
  /-- The first result of an expression. -/
  | first (e : Expr)
  /-- Operands put one behind the other as text. -/
  | concat (operands : List Expr)
  /-- The length of a text or table. -/
  | length (e : Expr)
  /-- Whether two values differ. -/
  | differ (a b : Expr)
  /-- The first value unless it is false or nil, else the second. -/
  | orElse (a b : Expr)
  /-- A function without steps, written on one line. -/
  | idle
  /-- An expression that is written on the next line. -/
  | nextLine (e : Expr)

/-- An entry of a table constructor. -/
inductive Entry where
  /-- A value under its key. -/
  | keyed (key value : Expr)
  /-- A value under the next whole number. -/
  | item (value : Expr)

/-- One step of a source. -/
inductive Step where
  /-- Sets a global variable. -/
  | setGlobal (name : Bytes) (value : Expr)
  /-- Sets a field of a table. -/
  | setField (table key value : Expr)
  /-- Evaluates an expression for its effects. -/
  | run (e : Expr)
  /-- Leaves the function with the given results. -/
  | leave (results : List Expr)
  /-- Runs the body if the condition is neither false nor nil. -/
  | when (condition : Expr) (body : List Step)
  /-- Empty lines. -/
  | blank (lines : Nat)
  /-- A line that does not compile. -/
  | faulty (fault : SyntaxFault)

end

mutual

/-- Line breaks inside the text of an expression. -/
def Expr.breaks : Expr → Nat
  | .table entries => entriesBreaks entries
  | .function body => 1 + linesOf body
  | .field t k => t.breaks + k.breaks
  | .call f args => f.breaks + exprsBreaks args
  | .method o _ args => o.breaks + exprsBreaks args
  | .first e => e.breaks
  | .concat es => exprsBreaks es
  | .length e => e.breaks
  | .differ a b => a.breaks + b.breaks
  | .orElse a b => a.breaks + b.breaks
  | .nextLine e => 1 + e.breaks
  | _ => 0

/-- Line breaks inside the texts of expressions that follow each other. -/
def exprsBreaks : List Expr → Nat
  | [] => 0
  | e :: es => e.breaks + exprsBreaks es

/-- Line breaks inside the texts of entries that follow each other. -/
def entriesBreaks : List Entry → Nat
  | [] => 0
  | .keyed k v :: es => k.breaks + v.breaks + entriesBreaks es
  | .item v :: es => v.breaks + entriesBreaks es

/-- Lines that a step takes. -/
def Step.lines : Step → Nat
  | .setGlobal _ v => 1 + v.breaks
  | .setField t k v => 1 + (t.breaks + k.breaks + v.breaks)
  | .run e => 1 + e.breaks
  | .leave es => 1 + exprsBreaks es
  | .when c body => 2 + c.breaks + linesOf body
  | .blank n => n
  | .faulty _ => 1

/-- Lines that steps take together. -/
def linesOf : List Step → Nat
  | [] => 0
  | s :: ss => s.lines + linesOf ss

end

end Script

end EventScripts
