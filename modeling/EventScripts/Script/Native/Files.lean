import EventScripts.Script.Native.Arguments

/-!
# Files of scripts

Scripts open files by their paths, read and write them, remove and rename them. What goes wrong with
a file is no error: the function gives nil, the reason and its number. Nothing is held back: what a
script writes is in the file at once.
-/

set_option autoImplicit false

namespace EventScripts

namespace Script

/-- A path that was passed as an argument: it ends at its first NUL. -/
def pathArgument (site : Site) (own : String) (place : Nat) (args : List Value) : Machine Bytes :=
  return (← textArgument site own place args).untilNul

/-- The results that tell why something could not be done, perhaps to which file. -/
def refusal (path : Option Bytes) (e : FileError) : List Value :=
  let reason := match path with
    | some path => path ++ textBytes ": " ++ textBytes e.text
    | none => textBytes e.text
  [.nil, .string reason, .integer (Int64.ofNat (e.code?.getD 0))]

/-- Whether a text is one of the modes in which files are opened. -/
def fileMode? : Bytes → Option (FileMode × Bool)
  | kind :: rest =>
    let (updates, rest) := match rest with
      | 0x2B :: rest => (true, rest)
      | rest => (false, rest)
    if !rest.all (· == 0x62) then none
    else if kind == 0x72 then some (if updates then .update else .read, updates)
    else if kind == 0x77 then some (.write, updates)
    else if kind == 0x61 then some (.append, updates)
    else none
  | [] => none

/-- A file that has been opened in a mode. -/
def OpenFile.begin (target : FileTarget) (mode : FileMode) (updates : Bool) : OpenFile where
  target := target
  place := 0
  reads := mode = .read || mode = .update || updates
  writes := mode ≠ .read
  appends := mode = .append
  closed := false

/-- Opens a file. -/
def openFile (site : Site) (args : List Value) : Machine (List Value) := do
  let path ← pathArgument site "io.open" 1 args
  let mode ← match (args[1]? : Option Value) with
    | none | some .nil => pure (textBytes "r")
    | some _ => textArgument site "io.open" 2 args
  match fileMode? mode.untilNul with
  | none => site.badArgument "io.open" 2 (textBytes "invalid mode")
  | some (mode, updates) => match ← Machine.ask (.opening mode path) with
    | .opened target =>
      let f ← Machine.newObject (.file (.begin target mode updates))
      pure [f]
    | .refused e => pure (refusal (some path) e)
    | _ => pure [.nil]

/-- What a value is as a file: its name in messages, none if it is no file. -/
def fileKind (v : Value) : Machine (Option String) := do
  match v with
  | .object ref => match (← get).objects[ref]? with
    | some (.file f) => pure (some (if f.closed then "closed file" else "file"))
    | some .stream => pure (some "file")
    | _ => pure none
  | _ => pure none

/-- A file argument, none for a standard stream. One that is closed cannot be used. -/
def fileArgument (site : Site) (own : String) (args : List Value) :
    Machine (Option (Nat × OpenFile)) := do
  match (args[0]? : Option Value) with
  | some (.object ref) => match (← get).objects[ref]? with
    | some (.file f) =>
      if f.closed then site.fail (textBytes "attempt to use a closed file")
      else pure (some (ref, f))
    | some .stream => pure none
    | _ => site.badType own 1 "FILE*" args
  | _ => site.badType own 1 "FILE*" args

/-- Puts a file back that was used. -/
def putFile (ref : Nat) (f : OpenFile) : Machine Unit :=
  modify fun store => { store with objects := store.objects.set! ref (.file f) }

/-- Closes a file. The standard streams stay open. -/
def closeFile (site : Site) (args : List Value) : Machine (List Value) := do
  match ← if args.isEmpty then pure none else fileArgument site "io.close" args with
  | none => pure [.nil, .text "cannot close standard file"]
  | some (ref, f) =>
    putFile ref { f with closed := true }
    pure [.boolean true]

/-- What is to be read of a file. -/
inductive ReadFormat where
  | bytes (count : Nat)
  /-- A line, perhaps with its end. -/
  | line (whole : Bool)
  | all

/-- The format that an argument asks for. -/
def readFormat (site : Site) (args : List Value) (place : Nat) : Machine ReadFormat := do
  match (args[place - 1]? : Option Value) with
  | some (.number _) =>
    let n ← integerArgument site "read" place args
    pure (.bytes n.toInt.toNat)
  | _ =>
    let format ← textArgument site "read" place args
    let format := if format.head? = some 0x2A then format.tail else format
    match format.head? with
    | some 0x6C => pure (.line false)
    | some 0x4C => pure (.line true)
    | some 0x61 => pure .all
    | some 0x6E => site.fail (textBytes "reading numbers is not available")
    | _ => site.badArgument "read" place (textBytes "invalid format")

/-- What a format takes of the bytes that are left, none if there is nothing for it, and how many
bytes that are. -/
def ReadFormat.take (left : Bytes) : ReadFormat → Option Bytes × Nat
  | .bytes count =>
    (if left.isEmpty then none else some (left.take count), min count left.length)
  | .line whole =>
    let line := left.takeWhile (· ≠ 0x0A)
    let ended := line.length < left.length
    (if left.isEmpty then none else some (if whole && ended then line ++ [0x0A] else line),
      if ended then line.length + 1 else line.length)
  | .all => (some left, left.length)

/-- What formats take one after the other, up to the first for which there is nothing, and the place
that is reached. -/
def readEach (bytes : Bytes) : Nat → List ReadFormat → List Value × Nat
  | place, [] => ([], place)
  | place, format :: rest =>
    match format.take (bytes.drop place) with
    | (none, _) => ([.nil], place)
    | (some part, count) =>
      let (values, place) := readEach bytes (place + count) rest
      (.string part :: values, place)

/-- Reads from a file. -/
def readFile (site : Site) (args : List Value) : Machine (List Value) := do
  match ← fileArgument site "read" args with
  | none => site.fail (textBytes "standard files are not available")
  | some (ref, f) =>
    let formats ← if args.tail.isEmpty then pure [ReadFormat.line false]
      else (List.range' 2 args.tail.length).mapM (readFormat site args)
    if !f.reads then pure (refusal none .unfit)
    else match ← Machine.ask (.reading f.target) with
      | .read bytes =>
        let (values, place) := readEach bytes f.place formats
        putFile ref { f with place }
        pure values
      | .refused e => pure (refusal none e)
      | _ => pure [.nil]

/-- Writes texts to a file, one after the other, up to the first that cannot be written: the file
then, and why it could not. -/
def writeEach (f : OpenFile) : List Bytes → Machine (OpenFile × Option FileError)
  | [] => pure (f, none)
  | text :: rest => do
    match ← Machine.ask (.writing f.target (if f.appends then none else some f.place) text) with
    | .refused e => pure (f, some e)
    | _ => writeEach { f with place := f.place + text.length } rest

/-- Writes to a file. -/
def writeFile (site : Site) (args : List Value) : Machine (List Value) := do
  match ← fileArgument site "write" args with
  | none => site.fail (textBytes "standard files are not available")
  | some (ref, f) =>
    let texts ← (List.range' 2 args.tail.length).mapM fun place =>
      textArgument site "write" place args
    if !f.writes && !texts.isEmpty then pure (refusal none .unfit)
    else
      let (f, failure) ← writeEach f texts
      putFile ref f
      match failure with
      | none => pure [.object ref]
      | some e => pure (refusal none e)

/-- Moves the place in a file. -/
def seekFile (site : Site) (args : List Value) : Machine (List Value) := do
  match ← fileArgument site "seek" args with
  | none => site.fail (textBytes "standard files are not available")
  | some (ref, f) =>
    let whence ← match (args[1]? : Option Value) with
      | none | some .nil => pure (textBytes "cur")
      | some _ => textArgument site "seek" 2 args
    let offset ← integerArgumentOr site "seek" 3 args 0
    let base : Nat ← if whence = textBytes "set" then pure 0
      else if whence = textBytes "cur" then pure f.place
      else if whence = textBytes "end" then
        match ← Machine.ask (.reading f.target) with
        | .read bytes => pure bytes.length
        | _ => pure 0
      else
        site.badArgument "seek" 2
          (textBytes "invalid option '" ++ whence.untilNul ++ textBytes "'")
    let place := (base : Int) + offset.toInt
    if place < 0 then pure (refusal none .invalid)
    else
      putFile ref { f with place := place.toNat }
      pure [.integer (Int64.ofInt place)]

/-- Tells that something was done to the files, or why it was not. -/
def fileResult (path : Option Bytes) : FileAnswer → List Value
  | .refused e => refusal path e
  | _ => [.boolean true]

/-- Calls a function or method of files. -/
def FileFunction.run (site : Site) (f : FileFunction) (args : List Value) :
    Machine (List Value) := do
  match f with
  | .open_ => openFile site args
  | .close => closeFile site args
  | .kind =>
    let v ← anyArgument site "io.type" 1 args
    return [((← fileKind v).map Value.text).getD .nil]
  | .remove =>
    let path ← pathArgument site "os.remove" 1 args
    return fileResult (some path) (← Machine.ask (.removing path))
  | .rename =>
    let source ← pathArgument site "os.rename" 1 args
    let target ← pathArgument site "os.rename" 2 args
    return fileResult none (← Machine.ask (.moving source target))
  | .read => readFile site args
  | .write => writeFile site args
  | .seek => seekFile site args
  | .flush | .setBuffer =>
    discard (fileArgument site "flush" args)
    pure [.boolean true]

end Script

end EventScripts
