import EventScripts.Files.Tree

/-!
# Requests to the files

Whoever wants something of the files asks for it: for one to be opened, read, written, removed or
moved. A request is answered, and the files may have changed then.
-/

set_option autoImplicit false

namespace EventScripts

/-- What can be asked of the files. -/
inductive FileRequest where
  | opening (mode : FileMode) (path : Bytes)
  | reading (target : FileTarget)
  /-- To write bytes from a place on, at the end if none is given. -/
  | writing (target : FileTarget) (place : Option Nat) (bytes : Bytes)
  | removing (path : Bytes)
  | moving (source target : Bytes)
  deriving DecidableEq

/-- How a request is answered. -/
inductive FileAnswer where
  | opened (target : FileTarget)
  | read (bytes : Bytes)
  | done
  | refused (e : FileError)
  deriving DecidableEq

namespace FileTree

/-- The answer to a change of the files, and the files then: as before if it was refused. -/
def changed (t : FileTree) : Except FileError FileTree → FileAnswer × FileTree
  | .ok new => (.done, new)
  | .error e => (.refused e, t)

/-- The answer to a request, and the files then. -/
def serve (t : FileTree) : FileRequest → FileAnswer × FileTree
  | .opening mode path => match t.openPath mode path with
    | .ok (new, target) => (.opened target, new)
    | .error e => (.refused e, t)
  | .reading target => match t.readFrom target with
    | .ok bytes => (.read bytes, t)
    | .error e => (.refused e, t)
  | .writing target place bytes => t.changed (t.writeTo target place bytes)
  | .removing path => t.changed (t.remove path)
  | .moving source target => t.changed (t.rename source target)

/-- The files after requests, in order. -/
def serveAll (t : FileTree) (requests : List FileRequest) : FileTree :=
  requests.foldl (fun t q => (t.serve q).2) t

end FileTree

end EventScripts
