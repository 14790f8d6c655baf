import EventScripts.Text.Blank

/-!
# Faults of native code

What goes wrong inside the machine or inside a native routine that a script calls. A fault that
passes through a native routine on its way out is wrapped once per routine, each time with the
trace of the calls at that place.

`Fault.text` is the bare diagnostic: the message of the innermost cause, then one line per
layer with its trace, innermost first. `Fault.display` is the decorated form.
-/

set_option autoImplicit false

namespace EventScripts

/-- A fault of the machine or of a native routine. -/
inductive Fault where
  | runtime (message : String)
  | memory (message : String)
  | source (message : String) (incomplete : Bool)
  | safety (message : String)
  /-- A thread that cannot go on was resumed. -/
  | deadThread
  /-- A routine or object was used after its end. -/
  | destructed
  /-- Too many arguments or results for the stack of the machine. -/
  | fullStack
  /-- A value could not be taken as the argument it was passed for. -/
  | argument (message : String)
  /-- A fault from outside the machine. -/
  | outside (message : String)
  /-- A fault on its way out of a native routine. -/
  | wrapped (trace : String) (cause : Fault)
  deriving DecidableEq

namespace Fault

/-- The innermost cause. -/
def root : Fault → Fault
  | .wrapped _ cause => cause.root
  | f => f

/-- The trace of the innermost layer, if there is one. -/
def innerTrace? : Fault → Option String
  | .wrapped trace cause => some (cause.innerTrace?.getD trace)
  | _ => none

/-- The decorated message of a fault that is not wrapped. -/
def plainDisplay : Fault → String
  | .runtime m => "runtime error: " ++ m
  | .memory m => "memory error: " ++ m
  | .source m _ => "syntax error: " ++ m
  | .safety m => "safety error: " ++ m
  | .deadThread => "coroutine is non-resumable"
  | .destructed => "a destructed callback or destructed userdata method was called"
  | .fullStack =>
    "out of Lua stack, too many arguments to a Lua function or too many return values from a callback"
  | .argument m => m
  | .outside m => m
  | .wrapped _ _ => ""

/-- The trace that the display of a wrapped fault shows: the innermost one, with a mark at the
place from which the outermost one repeats it. -/
def shownTrace (outer : String) (cause : Fault) : List Char :=
  match cause.innerTrace? with
  | none => trimBack outer.toList
  | some inner =>
    let part := trimBack (trimFront
      (dropWords "stack traceback:".toList outer.length outer.toList))
    match splitAtPart? part inner.toList with
    | some (before, after) => before ++ '>' :: trimBack after
    | none => trimBack inner.toList

/-- The decorated message. A wrapped fault shows its innermost cause and one trace. -/
def display : Fault → String
  | .wrapped trace cause =>
    cause.root.plainDisplay ++ "\n" ++ String.ofList (shownTrace trace cause) ++ "\n"
  | f => f.plainDisplay

/-- The bare diagnostic. -/
def text : Fault → String
  | .runtime m => m
  | .memory m => m
  | .source m _ => m
  | .wrapped trace cause => cause.text ++ "\n" ++ trace
  | f => f.plainDisplay

end Fault

end EventScripts
