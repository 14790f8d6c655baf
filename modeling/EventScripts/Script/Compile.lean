import EventScripts.Bytes.Utf8
import EventScripts.Script.ChunkId
import EventScripts.Script.Syntax

/-!
# Loading a source

`Script.load` turns a source under a label into the code of a function, or says why it cannot.
A label with a NUL byte is refused first; after that, the first fault in the order of the text
decides, wherever it is nested. Loading runs nothing.
-/

set_option autoImplicit false

namespace EventScripts

namespace Script

/-- The code of a function: the chunk it belongs to, the line of its first step, and its steps. -/
structure Code where
  chunk : Bytes
  line : Nat
  body : List Step

mutual

/-- The first fault inside an expression whose text begins at `line`, with its line. -/
def Expr.fault? (line : Nat) : Expr → Option (SyntaxFault × Nat)
  | .table entries => entriesFault? line entries
  | .function body => stepsFault? (line + 1) body
  | .field t k => (t.fault? line).or (k.fault? (line + t.breaks))
  | .call f args => (f.fault? line).or (exprsFault? (line + f.breaks) args)
  | .method o _ args => (o.fault? line).or (exprsFault? (line + o.breaks) args)
  | .first e => e.fault? line
  | .concat es => exprsFault? line es
  | .length e => e.fault? line
  | .differ a b => (a.fault? line).or (b.fault? (line + a.breaks))
  | .orElse a b => (a.fault? line).or (b.fault? (line + a.breaks))
  | .nextLine e => e.fault? (line + 1)
  | _ => none

/-- The first fault inside expressions that follow each other. -/
def exprsFault? (line : Nat) : List Expr → Option (SyntaxFault × Nat)
  | [] => none
  | e :: es => (e.fault? line).or (exprsFault? (line + e.breaks) es)

/-- The first fault inside entries that follow each other. -/
def entriesFault? (line : Nat) : List Entry → Option (SyntaxFault × Nat)
  | [] => none
  | .keyed k v :: es =>
    ((k.fault? line).or (v.fault? (line + k.breaks))).or
      (entriesFault? (line + k.breaks + v.breaks) es)
  | .item v :: es => (v.fault? line).or (entriesFault? (line + v.breaks) es)

/-- The first fault inside a step that begins at `line`. -/
def Step.fault? (line : Nat) : Step → Option (SyntaxFault × Nat)
  | .setGlobal _ v => v.fault? line
  | .setField t k v =>
    ((t.fault? line).or (k.fault? (line + t.breaks))).or (v.fault? (line + t.breaks + k.breaks))
  | .run e => e.fault? line
  | .leave es => exprsFault? line es
  | .when c body => (c.fault? line).or (stepsFault? (line + c.breaks + 1) body)
  | .blank _ => none
  | .faulty f => some (f, line)

/-- The first fault inside steps that begin at `line`. -/
def stepsFault? (line : Nat) : List Step → Option (SyntaxFault × Nat)
  | [] => none
  | s :: ss => (s.fault? line).or (stepsFault? (line + s.lines) ss)

end

/-- The line at which a fault is noticed: where the source ends, for what its end cuts off. -/
def SyntaxFault.noticedAt (line : Nat) : SyntaxFault → Nat
  | .jump | .openFunction => line + 1
  | _ => line

/-- What is said about a fault. -/
def SyntaxFault.complaint (line : Nat) : SyntaxFault → String
  | .paren => "unexpected symbol near ')'"
  | .equals => "unexpected symbol near '='"
  | .openText => "unfinished string near ''abc'"
  | .jump =>
    "no visible label 'nowhere' for <goto> at line " ++ String.ofList (Binary64.digits line)
  | .openFunction => "<name> or '...' expected near <eof>"

/-- Why a source does not load. -/
inductive LoadError where
  /-- The label has a NUL byte at this place. -/
  | nulInLabel (place : Nat)
  /-- The source has a fault at this line. -/
  | fault (chunk : Bytes) (fault : SyntaxFault) (line : Nat)

/-- The message of a load error. -/
def LoadError.message : LoadError → String
  | .nulInLabel place =>
    "invalid name: nul byte found in provided data at position: "
      ++ String.ofList (Binary64.digits place)
  | .fault chunk f line =>
    (positionText chunk (f.noticedAt line) ++ textBytes (f.complaint line)).lossy

/-- The code of a source loaded under a label. -/
def load (label : Bytes) (source : List Step) : Except LoadError Code :=
  match label.nul? with
  | some place => .error (.nulInLabel place)
  | none =>
    let chunk := chunkId label
    match stepsFault? 1 source with
    | some (f, line) => .error (.fault chunk f line)
    | none => .ok ⟨chunk, 1, source⟩

end Script

end EventScripts
