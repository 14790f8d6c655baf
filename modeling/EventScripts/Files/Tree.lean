import EventScripts.Bytes.Utf8

/-!
# Files

As much of a file system as an error log and the scripts beside it need: directories, files with
their bytes, and a device that is always full. Paths that do not begin at the root begin at a
working directory of their own. A file is known by its place, so whoever has it open follows the
place and not the file when it is renamed.
-/

set_option autoImplicit false

namespace EventScripts

/-- Why something could not be done to a file. -/
inductive FileError where
  | missing
  | unfit
  | denied
  | busy
  | notDirectory
  | isDirectory
  | invalid
  | full
  | nameTooLong
  | notEmpty
  /-- A path with a NUL byte, which no file has. -/
  | nulInPath
  deriving DecidableEq

namespace FileError

/-- What a file error is called. -/
def text : FileError → String
  | .missing => "No such file or directory"
  | .unfit => "Bad file descriptor"
  | .denied => "Permission denied"
  | .busy => "Device or resource busy"
  | .notDirectory => "Not a directory"
  | .isDirectory => "Is a directory"
  | .invalid => "Invalid argument"
  | .full => "No space left on device"
  | .nameTooLong => "File name too long"
  | .notEmpty => "Directory not empty"
  | .nulInPath => "file name contained an unexpected NUL byte"

/-- The number of a file error, if the system has one for it. -/
def code? : FileError → Option Nat
  | .missing => some 2
  | .unfit => some 9
  | .denied => some 13
  | .busy => some 16
  | .notDirectory => some 20
  | .isDirectory => some 21
  | .invalid => some 22
  | .full => some 28
  | .nameTooLong => some 36
  | .notEmpty => some 39
  | .nulInPath => none

/-- The message of a file error. -/
def message (e : FileError) : String :=
  match e.code? with
  | some code => e.text ++ " (os error " ++ toString code ++ ")"
  | none => e.text

end FileError

/-- A place in the tree: whether it is seen from the root, and the names on the way. -/
structure FilePlace where
  absolute : Bool
  names : List Bytes
  deriving DecidableEq

namespace FilePlace

/-- The place above. The working directory and the root are their own. -/
def above (p : FilePlace) : FilePlace := { p with names := p.names.dropLast }

/-- The place that a name leads to. -/
def down (p : FilePlace) (name : Bytes) : FilePlace :=
  if name = [0x2E, 0x2E] then p.above else { p with names := p.names ++ [name] }

/-- Whether the place lies in a directory, however deep. -/
def within (p directory : FilePlace) : Bool :=
  p.absolute == directory.absolute && directory.names.isPrefixOf p.names && p != directory

/-- A place in a directory as it stands after the directory has been moved. -/
def moved (p source target : FilePlace) : FilePlace :=
  if p == source || p.within source then
    ⟨target.absolute, target.names ++ p.names.drop source.names.length⟩
  else p

/-- The names of a path: the parts between slashes that are neither empty nor a single dot. -/
def pathNames (path : Bytes) : List Bytes :=
  (Bytes.partsAt 0x2F path).filter fun name => name ≠ [] && name ≠ [0x2E]

/-- Where a path begins: at the root, or in the working directory. -/
def start (path : Bytes) : FilePlace := ⟨path.head? = some 0x2F, []⟩

/-- The place that a path names, whether anything is there or not. -/
def ofPath (path : Bytes) : FilePlace := (pathNames path).foldl down (start path)

end FilePlace

/-- The part of a file system that matters. -/
structure FileTree where
  directories : List FilePlace
  files : List (FilePlace × Bytes)
  deriving DecidableEq

/-- What has been opened. -/
inductive FileTarget where
  | file (place : FilePlace)
  /-- A directory, which can be opened but not read. -/
  | directory (place : FilePlace)
  | fullDevice
  deriving DecidableEq

/-- What a file is opened for. -/
inductive FileMode where
  | read
  /-- To be written anew. -/
  | write
  /-- To be written at its end. -/
  | append
  /-- To be read and written. -/
  | update
  deriving DecidableEq

namespace FileTree

open FilePlace

/-- The directory that relative paths begin at. -/
def work : FilePlace := ⟨false, []⟩

/-- The directory that absolute paths begin at. -/
def root : FilePlace := ⟨true, []⟩

/-- The directory of the devices. -/
def devices : FilePlace := ⟨true, [textBytes "dev"]⟩

/-- The device that is always full. -/
def fullDevice : FilePlace := ⟨true, [textBytes "dev", textBytes "full"]⟩

/-- An empty working directory. -/
def fresh : FileTree := ⟨[work, root, devices], []⟩

/-- Whether there is a directory at a place. -/
def hasDirectory (t : FileTree) (p : FilePlace) : Bool := t.directories.contains p

/-- The bytes of a file. -/
def bytes? (t : FileTree) (p : FilePlace) : Option Bytes :=
  (t.files.find? (·.1 == p)).map (·.2)

/-- Whether there is a file at a place. -/
def hasFile (t : FileTree) (p : FilePlace) : Bool :=
  p == fullDevice || (t.bytes? p).isSome

/-- Gives the file at a place its bytes. It is made if there is none. -/
def put (t : FileTree) (place : FilePlace) (bytes : Bytes) : FileTree :=
  if (t.bytes? place).isSome then
    { t with files := t.files.map fun (p, old) => if p == place then (p, bytes) else (p, old) }
  else { t with files := t.files ++ [(place, bytes)] }

/-- The most bytes of a name. -/
def longestName : Nat := 255

/-- Goes down from a directory along names. -/
def walk (t : FileTree) : FilePlace → List Bytes → Except FileError FilePlace
  | p, [] => .ok p
  | p, name :: rest =>
    if !t.hasDirectory p then .error (if t.hasFile p then .notDirectory else .missing)
    else if longestName < name.length then .error .nameTooLong
    else t.walk (p.down name) rest

/-- The place that a path leads to. -/
def locate (t : FileTree) (path : Bytes) : Except FileError FilePlace :=
  if path = [] then .error .missing
  else if path.contains 0 then .error .nulInPath
  else t.walk (start path) (pathNames path)

/-- Whether a path can only be that of a directory. -/
def asksDirectory (path : Bytes) : Bool := path.getLast? = some 0x2F

/-- Opens what is at a place; a file that is not there is made if it is to be written. -/
def openAt (t : FileTree) (mode : FileMode) (asDirectory : Bool) (place : FilePlace) :
    Except FileError (FileTree × FileTarget) :=
  if t.hasDirectory place then
    if mode = .read then .ok (t, .directory place) else .error .isDirectory
  else if t.hasFile place then
    if asDirectory then .error .notDirectory
    else if place == fullDevice then .ok (t, .fullDevice)
    else if mode = .write then .ok (t.put place [], .file place)
    else .ok (t, .file place)
  else if mode = .read || mode = .update then .error .missing
  else if asDirectory then .error .isDirectory
  else .ok (t.put place [], .file place)

/-- Opens what a path leads to. -/
def openPath (t : FileTree) (mode : FileMode) (path : Bytes) :
    Except FileError (FileTree × FileTarget) :=
  (t.locate path).bind (t.openAt mode (asksDirectory path))

/-- Opens a file at the end of its bytes. -/
def openAppend (t : FileTree) (path : String) : Except FileError (FileTree × FileTarget) :=
  t.openPath .append (textBytes path)

/-- Bytes with others written over them from a place on; a gap in front of it is filled up. -/
def overwritten (old : Bytes) (place : Nat) (new : Bytes) : Bytes :=
  (old ++ List.replicate (place - old.length) 0).take place ++ new ++ old.drop (place + new.length)

/-- Writes to what is open from a place on, at the end if none is given. What is written to a file
that is gone is lost. -/
def writeTo (t : FileTree) (target : FileTarget) (place : Option Nat) (new : Bytes) :
    Except FileError FileTree :=
  match target with
  | .fullDevice => .error .full
  | .directory _ => .error .unfit
  | .file p => match t.bytes? p with
    | some old => .ok (t.put p (overwritten old (place.getD old.length) new))
    | none => .ok t

/-- The bytes of what is open. -/
def readFrom (t : FileTree) : FileTarget → Except FileError Bytes
  | .fullDevice => .ok []
  | .directory _ => .error .isDirectory
  | .file p => .ok ((t.bytes? p).getD [])

/-- Whether there is anything in a directory. -/
def hasWithin (t : FileTree) (directory : FilePlace) : Bool :=
  t.directories.any (·.within directory) || t.files.any (·.1.within directory) ||
    fullDevice.within directory

/-- Removes what is at a place: a file, or a directory with nothing in it. -/
def removeAt (t : FileTree) (asDirectory : Bool) (place : FilePlace) : Except FileError FileTree :=
  if place = root then .error .busy
  else if place = work then .error .invalid
  else if place = fullDevice then .error .denied
  else if t.hasDirectory place then
    if t.hasWithin place then .error .notEmpty
    else .ok { t with directories := t.directories.filter (· ≠ place) }
  else if t.hasFile place then
    if asDirectory then .error .notDirectory
    else .ok { t with files := t.files.filter (·.1 ≠ place) }
  else .error .missing

/-- Removes what a path leads to. -/
def remove (t : FileTree) (path : Bytes) : Except FileError FileTree :=
  (t.locate path).bind (t.removeAt (asksDirectory path))

/-- Moves what is at a place to another, in place of a file or an empty directory there. -/
def renameAt (t : FileTree) (source target : FilePlace) : Except FileError FileTree :=
  if source = target then .ok t
  else if source = root || source = work || target = root || target = work then .error .busy
  else if source = fullDevice || target = fullDevice then .error .denied
  else if t.hasDirectory source then
    if target.within source then .error .invalid
    else if t.hasFile target then .error .notDirectory
    else if t.hasWithin target then .error .notEmpty
    else .ok {
      directories := (t.directories.filter (· ≠ target)).map (·.moved source target)
      files := t.files.map fun (p, bytes) => (p.moved source target, bytes) }
  else if t.hasDirectory target then .error .isDirectory
  else match t.bytes? source with
    | some bytes => .ok { t with
        files := (t.files.filter fun e => e.1 ≠ source && e.1 ≠ target) ++ [(target, bytes)] }
    | none => .error .missing

/-- Moves what a path leads to. A file cannot go to where only a directory can be. -/
def rename (t : FileTree) (source target : Bytes) : Except FileError FileTree := do
  let old ← t.locate source
  if !t.hasDirectory old && !t.hasFile old then throw .missing
  let new ← t.locate target
  if !t.hasDirectory old && (asksDirectory source || asksDirectory target) then
    throw .notDirectory
  t.renameAt old new

/-- Makes a directory and those above it. -/
def makeDirectories (t : FileTree) (path : String) : FileTree :=
  let names := pathNames (textBytes path)
  let places := (List.range (names.length + 1)).map fun n =>
    (names.take n).foldl down (start (textBytes path))
  { t with directories := t.directories ++ places.filter fun p => !t.directories.contains p }

/-- The text of the file that a path leads to. -/
def textAt? (t : FileTree) (path : String) : Option String :=
  match t.locate (textBytes path) with
  | .ok place => (t.bytes? place).map (·.lossy)
  | .error _ => none

end FileTree

end EventScripts
