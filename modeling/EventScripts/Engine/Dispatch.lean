import EventScripts.Dispatch.Arguments
import EventScripts.Dispatch.Outcome
import EventScripts.Dispatch.Token
import EventScripts.Engine.Execution

/-!
# Dispatching events to script functions

A site asks for the function that its request names to be called. A closed engine and a broken
token skip the call. A name that is no function, and a call that fails, break the token. The run
is in a scope: the host has its origin and its note style back afterwards.
-/

set_option autoImplicit false

namespace EventScripts

open Script

/-- What a dispatch leaves: the token and the invocation counter of the site, and the answer. -/
structure Dispatched (α : Type) where
  token : Token
  count : Nat
  answer : Except ScriptError (Outcome α)

/-- Reads the results of a call that was made. -/
def Dispatched.map {α β : Type} (f : α → β) (d : Dispatched α) : Dispatched β :=
  ⟨d.token, d.count, d.answer.map fun
    | .skipped => .skipped
    | .invoked a => .invoked (f a)⟩

namespace Operation

variable {H : Type} [Host H]

/-- Traces a dispatch to the host, if the settings ask for that. -/
def traceDispatch (r : Request) : OperationOn H Unit := do
  if (← get).engine.settings.traceDispatch then
    onAround (·.onHost
      (Host.trace ("Executing " ++ r.kind ++ " script \"" ++ r.procedure ++ "\"")))

/-- Looks up the function that a name with dots stands for. -/
def findFunction (live : Live) (name : String) : OperationOn H (Option Function × Live) := do
  let (found, vm) ← runOn live.vm (lookupFunction name)
  putVm vm
  pure (match found with
    | .ok f => f
    | .error _ => none, { live with vm })

/-- Calls a function with the arguments of a request. -/
def callFunction (live : Live) (f : Function) (arguments : Machine (List Value)) :
    OperationOn H (Except String (List Value)) :=
  runProtected live do live.invoker.call f (← arguments)

/-- What the run in the scope of a dispatch came to. -/
inductive SiteRun where
  | notFound
  | failed (message : String)
  | returned (results : List Value)

/-- What a run came to in which the function was called. -/
def SiteRun.ofCall : Except String (List Value) → SiteRun
  | .ok results => .returned results
  | .error message => .failed message

/-- The run in the scope of a dispatch: finds the function and calls it. -/
def runSite (live : Live) (r : Request) (arguments : Machine (List Value)) :
    OperationOn H SiteRun := do
  match ← findFunction live r.procedure with
  | (none, _) => pure .notFound
  | (some f, live) =>
    onAround (·.setOrigin r.source)
    count fun s => { s with protectedCalls := s.protectedCalls + 1 }
    SiteRun.ofCall <$> callFunction live f arguments

/-- The line of the log for a name that is no function. -/
def notFoundLine (r : Request) : LogLine :=
  .warning ("[scripting] " ++ r.kind ++ " '" ++ r.procedure
    ++ "': function not found, disabling")

/-- What a dispatch does after its scope: the token, the counts and the host learn how it went. -/
def concludeSite (token : Token) (r : Request) (counter : Nat) :
    SiteRun → OperationOn H (Dispatched (List Value))
  | .notFound => do
    count fun s => { s with resolutionFailures := s.resolutionFailures + 1 }
    writeLog (notFoundLine r)
    pure ⟨token.markBroken, counter, .error (.resolution r.procedure)⟩
  | .failed message => do
    count fun s => { s with runtimeErrors := s.runtimeErrors + 1 }
    report runtimeEvent (some r.context) message
    pure ⟨token.markResolved.markBroken, counter, .error (.runtime r.procedure message)⟩
  | .returned results => do
    onAround (·.onHost Host.addTime)
    pure ⟨token.markResolved, counter + 1, .ok (.invoked results)⟩

/-- Calls the function that a request names, for a site with a token and an invocation counter. -/
def callSite (token : Token) (r : Request) (arguments : Machine (List Value)) (counter : Nat) :
    OperationOn H (Dispatched (List Value)) := do
  let engine := (← get).engine
  match engine.live with
  | none => pure ⟨token, counter, .ok .skipped⟩
  | some live =>
    let token := token.sync engine.generation
    if token.isBroken then
      count fun s => { s with skipped := s.skipped + 1 }
      pure ⟨token, counter, .ok .skipped⟩
    else
      traceDispatch r
      concludeSite token r counter (← inScope (runSite live r arguments))

/-- Calls the function that a request names with all arguments of the request; the first result, if
the request asks for it. -/
def dispatch (token : Token) (r : Request) (counter : Nat) :
    OperationOn H (Dispatched (Option Scalar)) :=
  Dispatched.map (fun results => if r.wantResult then some (Scalar.ofResults results) else none)
    <$> callSite token r r.arguments counter

/-- Calls the function that a request names with one text, and gives the text it returns. -/
def dispatchText (token : Token) (r : Request) (text : Bytes) (counter : Nat) :
    OperationOn H (Dispatched (Option Bytes)) :=
  Dispatched.map resultText <$> callSite token r (pure (textArguments text)) counter

/-- The token for a new site that calls the function of a name. -/
def resolveToken (name : String) : OperationOn H Token := do
  let engine := (← get).engine
  match engine.live with
  | none => pure ⟨.broken, engine.generation⟩
  | some live =>
    let (found, _) ← findFunction live name
    pure ⟨if found.isSome then .resolved else .broken, engine.generation⟩

end Operation

end EventScripts
