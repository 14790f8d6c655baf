import EventScripts.Host.Surroundings

/-!
# Reporting failures

A failure goes to the console if the host wants that, else to a presenter, which may ask to
have later failures on the console. Independently of that it is appended to the error log if the
host keeps one. Nothing that goes wrong with the log has an effect on anything else but a line
of the console.
-/

set_option autoImplicit false

namespace EventScripts

/-- How failures are shown that do not go to the console. -/
inductive Presenter where
  /-- As a line of the log. -/
  | log
  /-- In a dialog. Given all dialogs up to this one, `answer` tells whether its user asks for the
  console from then on. -/
  | dialog (answer : List Dialog → Bool)

/-- A clock: the date of each failure that is reported, by how many there were before it. -/
structure Clock where
  date : Nat → String

namespace Clock

/-- A clock that stands still. -/
def still (date : String) : Clock := ⟨fun _ => date⟩

instance : Coe String Clock := ⟨still⟩

end Clock

/-- How failures are reported. -/
structure Reporter where
  presenter : Presenter
  /-- The path of the error log. -/
  logPath : String
  clock : Clock

namespace Reporter

variable {H : Type}

/-- Shows a failure; whether the user asks for the console. -/
def present (r : Reporter) (f : Failure) (haveHost : Bool) (s : Surroundings H) :
    Surroundings H × Bool :=
  match r.presenter with
  | .log => (s.writeLog f.logLine, false)
  | .dialog answer =>
    let dialogs := s.dialogs ++ [⟨f, haveHost⟩]
    ({ s with dialogs }, answer dialogs)

variable [Host H]

/-- Writes a failure to the console of a host. -/
def writeConsole (f : Failure) (h : H) : H :=
  let h := f.consoleTexts.foldl (fun h text => Host.note errorFore errorBack text h) h
  match f.line with
  | some line => Host.showErrorLines line h
  | none => h

/-- Tells on the console that the error log cannot be opened. -/
def tellUnopened (r : Reporter) (h : H) : H :=
  Host.note errorFore errorBack r.logPath
    (Host.tell errorFore errorBack "Cannot open error log file: " h)

/-- Appends a failure to the error log. -/
def appendLog (r : Reporter) (f : Failure) (h : H) (s : Surroundings H) : Surroundings H :=
  match s.files.openAppend r.logPath with
  | .error e =>
    (s.writeLog (.warning ("[scripting] cannot open " ++ r.logPath ++ ": " ++ e.message))).onHost
      r.tellUnopened
  | .ok (files, target) =>
    let s := { s with files }
    match files.writeTo target none (textBytes (f.logBlock h)) with
    | .error e =>
      s.writeLog (.warning ("[scripting] writing " ++ r.logPath ++ " failed: " ++ e.message))
    | .ok files => { s with files }

/-- Shows a failure on the console or through the presenter. -/
def route (r : Reporter) (f : Failure) (s : Surroundings H) : Surroundings H :=
  match s.host with
  | none => (r.present f false s).1
  | some h =>
    if Host.errorsToOutput h then s.onHost (writeConsole f)
    else
      let (s, switch) := r.present f true s
      if switch then s.onHost (Host.routeErrors true) else s

/-- Appends a failure to the error log if the host keeps one. -/
def keep (r : Reporter) (f : Failure) (s : Surroundings H) : Surroundings H :=
  match s.host with
  | none => s
  | some h => if Host.logErrors h then r.appendLog f h s else s

/-- Reports a failure: its record with the date, and the surroundings after that. -/
def report (r : Reporter) (event : String) (context : Option CallContext) (description : String)
    (s : Surroundings H) : Failure × Surroundings H :=
  let f := Failure.new event context description s.host (r.clock.date s.reported)
  let s := { s with reported := s.reported + 1 }
  let s := s.writeLog (.debug ("[scripting] " ++ f.event ++ ": " ++ f.description))
  (f, r.keep f (r.route f s))

end Reporter

end EventScripts
