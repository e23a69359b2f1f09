import FieldLogger.Text.Blank
import FieldLogger.Text.Utf8

/-!
A tree of directories and files, and the file calls that a host offers on it: making directories and opening
files by path. A path is walked segment by segment; every segment but the last has to lead into a directory.
-/

namespace FieldLogger

/-- Why the host refuses a file call. -/
inductive DiskError where
  | notFound
  | badDescriptor
  | alreadyExists
  | notDirectory
  | isDirectory
  | nameTooLong
  | nulInPath
  deriving DecidableEq, Repr

def DiskError.message : DiskError → String
  | .notFound => "No such file or directory (os error 2)"
  | .badDescriptor => "Bad file descriptor (os error 9)"
  | .alreadyExists => "File exists (os error 17)"
  | .notDirectory => "Not a directory (os error 20)"
  | .isDirectory => "Is a directory (os error 21)"
  | .nameTooLong => "File name too long (os error 36)"
  | .nulInPath => "file name contained an unexpected NUL byte"

/-! ### Paths -/

/-- The names from the root of the tree to a node. -/
abbrev Location := List String

/-- A path as it is written: its names, with `.` and `..` among them. -/
structure Route where
  absolute : Bool
  segments : List String
  /-- It ends in a slash. -/
  trailingSlash : Bool
  deriving DecidableEq, Repr

namespace Route

/-- Splits a path at its slashes; repeated slashes count once. -/
def parse (path : String) : Route where
  absolute := path.toList.head? == some '/'
  segments := ((Text.splitAt '/' path.toList).filter (!·.isEmpty)).map String.ofList
  trailingSlash := path.toList.getLast? == some '/'

/-- The names of a path without the `.` that say nothing: a leading `.` of a relative path is kept. -/
def components (r : Route) : List String :=
  match r.absolute, r.segments with
  | false, "." :: rest => "." :: rest.filter (· != ".")
  | _, segments => segments.filter (· != ".")

/-- Two paths name the same components. -/
def sameAs (a b : Route) : Bool := a.absolute == b.absolute && a.components == b.components

end Route

/-- A path below a directory; an absolute path stands for itself. -/
def joinPath (root path : String) : String :=
  if path.toList.head? == some '/' ∨ root.isEmpty then path
  else if root.toList.getLast? == some '/' then root ++ path
  else root ++ "/" ++ path

/-! ### The tree -/

/-- What stands at a location. -/
inductive DiskNode where
  | file (contents : Bytes)
  | directory
  deriving DecidableEq, Repr

/-- A tree of files, and the directory at which relative paths start. -/
structure Disk where
  nodes : List (Location × DiskNode)
  workingDirectory : Location
  deriving DecidableEq, Repr

namespace Disk

/-- The node at a location; the root is a directory. -/
def node? (d : Disk) (l : Location) : Option DiskNode :=
  if l.isEmpty then some .directory else d.nodes.lookup l

/-- Places a node among nodes, instead of the one at that location if there is one. -/
def place (l : Location) (n : DiskNode) : List (Location × DiskNode) → List (Location × DiskNode)
  | [] => [(l, n)]
  | (k, m) :: rest => if l = k then (k, n) :: rest else (k, m) :: place l n rest

/-- The tree with a node at a location. -/
def setNode (d : Disk) (l : Location) (n : DiskNode) : Disk := { d with nodes := place l n d.nodes }

/-- The contents of the file at a location. -/
def contents? (d : Disk) (l : Location) : Option Bytes :=
  match d.node? l with
  | some (.file contents) => some contents
  | _ => none

/-- A tree whose only nodes are the directories down to the working directory. -/
def ofWorkingDirectory (l : Location) : Disk :=
  ⟨(List.range l.length).map fun i => (l.take (i + 1), .directory), l⟩

def maxNameBytes : Nat := 255

def maxPathBytes : Nat := 4095

/-- Follows names from a location; what the last one names need not exist. -/
def walk (d : Disk) : Location → List String → Except DiskError Location
  | l, [] => .ok l
  | l, s :: rest =>
    match d.node? l with
    | none => .error .notFound
    | some (.file _) => .error .notDirectory
    | some .directory =>
      if s = "." then walk d l rest
      else if s = ".." then walk d l.dropLast rest
      else if maxNameBytes < s.utf8ByteSize then .error .nameTooLong
      else walk d (l ++ [s]) rest

/-- The location at which a path starts. -/
def start (d : Disk) (r : Route) : Location := if r.absolute then [] else d.workingDirectory

/-- The route of a path that the host takes. -/
def route? (path : String) : Except DiskError Route :=
  if path.toList.contains '\x00' then .error .nulInPath
  else if path.isEmpty then .error .notFound
  else if maxPathBytes < path.utf8ByteSize then .error .nameTooLong
  else .ok (Route.parse path)

/-- The location that a path names; after a trailing slash it has to be a directory. -/
def locate (d : Disk) (r : Route) : Except DiskError Location :=
  d.walk (d.start r) (if r.trailingSlash then r.segments ++ ["."] else r.segments)

/-- Opens a file that exists, or a directory, for reading. -/
def openExisting (d : Disk) (path : String) : Except DiskError Location := do
  let l ← d.locate (← route? path)
  match d.node? l with
  | none => .error .notFound
  | some _ => .ok l

/-- Opens a file that exists for adding at its end. -/
def openAppending (d : Disk) (path : String) : Except DiskError Location := do
  let l ← d.locate (← route? path)
  match d.node? l with
  | none => .error .notFound
  | some .directory => .error .isDirectory
  | some (.file _) => .ok l

/-- Opens an empty file, created if it does not exist. -/
def openTruncated (d : Disk) (path : String) : Except DiskError (Location × Disk) := do
  let r ← route? path
  let l ← d.walk (d.start r) r.segments
  if r.trailingSlash then .error .isDirectory
  else
    match d.node? l with
    | some .directory => .error .isDirectory
    | _ => .ok (l, d.setNode l (.file []))

/-- Makes the directory that a route names. -/
def makeDirectory (d : Disk) (r : Route) : Except DiskError Disk := do
  let l ← d.walk (d.start r) r.segments
  match d.node? l with
  | some _ => .error .alreadyExists
  | none => .ok (d.setNode l .directory)

/-- The route leads to a directory. -/
def isDirectory (d : Disk) (r : Route) : Bool :=
  match d.locate r with
  | .ok l => d.node? l == some .directory
  | .error _ => false

/-- Makes a directory with those above it; `parents` are the components of the path from the last back. -/
def makeDirectoriesFrom (d : Disk) (r : Route) : List String → Except DiskError Unit × Disk
  | [] => (.ok (), d)
  | _ :: parents =>
    match d.makeDirectory r with
    | .ok d => (.ok (), d)
    | .error .notFound =>
      match makeDirectoriesFrom d ⟨r.absolute, parents.reverse, false⟩ parents with
      | (.error e, d) => (.error e, d)
      | (.ok (), d) =>
        match d.makeDirectory r with
        | .ok d => (.ok (), d)
        | .error e => if d.isDirectory r then (.ok (), d) else (.error e, d)
    | .error e => if d.isDirectory r then (.ok (), d) else (.error e, d)

/-- Makes a directory with those above it, as far as they are missing. -/
def makeDirectories (d : Disk) (path : String) : Except DiskError Unit × Disk :=
  if path.isEmpty then (.ok (), d)
  else
    match route? path with
    | .error e => (.error e, d)
    | .ok r => d.makeDirectoriesFrom r r.components.reverse

end Disk
end FieldLogger
