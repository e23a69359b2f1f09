import FieldLogger.Storage.ByteStore
import FieldLogger.Storage.Disk

/-!
A store on a directory of the host. Its files are those of the directory; an open file keeps its place, and
a file opened in one mode refuses the calls of another. The host may fail at any file call that the tree of files
allows: at opening, at reading, and at writing after part of the bytes went into the file.
-/

namespace FieldLogger

/-- An open file of the host: where it is, how it was opened and the place of the next read or write. -/
structure DiskHandle where
  location : Location
  mode : OpenMode
  position : Nat
  deriving DecidableEq, Repr

/-! ### Failures of the host -/

/-- How writes fail: the first bytes of the data are taken, so many at most, and there is a failure if more follow. -/
structure WriteFault where
  taken : Nat
  reason : String
  deriving DecidableEq, Repr

/-- What the host fails at now, and why: opening a file, reading one or writing one. -/
structure HostFaults where
  opening : Option String
  reading : Option String
  writing : Option WriteFault
  deriving DecidableEq, Repr

namespace HostFaults

def none : HostFaults := ⟨Option.none, Option.none, Option.none⟩

/-- How a write ends, and the bytes that it takes. -/
def accept (f : HostFaults) (data : Bytes) : Except StorageError Nat × Bytes :=
  match f.writing.filter (·.taken < data.length) with
  | Option.none => (.ok data.length, data)
  | some fault => (.error (.io fault.reason), data.take fault.taken)

end HostFaults

/-- Opens a file in a mode. -/
def Disk.openIn (d : Disk) (mode : OpenMode) (path : String) : Except DiskError (Location × Disk) :=
  match mode with
  | .read => (d.openExisting path).map fun l => (l, d)
  | .write => d.openTruncated path
  | .append => (d.openAppending path).map fun l => (l, d)

/-! ### The store -/

/-- A store on the directory `root` of a disk. -/
structure DirectoryStore where
  disk : Disk
  root : String
  mounted : Bool
  handle : Option DiskHandle
  faults : HostFaults
  deriving DecidableEq, Repr

namespace DirectoryStore

/-- The store on a directory, not yet mounted, of a host that fails at nothing. -/
def ofDirectory (disk : Disk) (root : String) : DirectoryStore := ⟨disk, root, false, none, .none⟩

/-- Makes the directory, with those above it. -/
def mount (s : DirectoryStore) : StoreResult DirectoryStore Unit :=
  match s.disk.makeDirectories s.root with
  | (.ok (), disk) => (.ok (), { s with disk, mounted := true })
  | (.error e, disk) => (.error (.mount (s.root ++ ": " ++ e.message)), { s with disk })

/-- Opens a file below the directory; a failure keeps the file that was open. -/
def openFile (s : DirectoryStore) (path : String) (mode : OpenMode) : StoreResult DirectoryStore Unit :=
  if !s.mounted then (.error .notMounted, s)
  else
    let full := joinPath s.root path
    match s.faults.opening, s.disk.openIn mode full with
    | some reason, _ => (.error (.openFailed full reason), s)
    | none, .error e => (.error (.openFailed full e.message), s)
    | none, .ok (location, disk) => (.ok (), { s with disk, handle := some ⟨location, mode, 0⟩ })

/-- Reads on from the place of the open file. -/
def read (s : DirectoryStore) (limit : Nat) : StoreResult DirectoryStore Bytes :=
  match s.handle with
  | none => (.error .notOpen, s)
  | some h =>
    if h.mode ≠ .read then (.error (.io DiskError.badDescriptor.message), s)
    else
      match s.faults.reading, s.disk.contents? h.location with
      | some reason, _ => (.error (.io reason), s)
      | none, none => (.error (.io DiskError.isDirectory.message), s)
      | none, some data =>
        let chunk := (data.drop h.position).take limit
        (.ok chunk, { s with handle := some { h with position := h.position + chunk.length } })

/-- The store after bytes went into the open file, at its place or at its end if it was opened for that. -/
def put (s : DirectoryStore) (h : DiskHandle) (data : Bytes) : DirectoryStore :=
  let old := (s.disk.contents? h.location).getD []
  let place := if h.mode = .append then old.length else h.position
  let new := old.take place ++ data ++ old.drop (place + data.length)
  { s with
    disk := s.disk.setNode h.location (.file new)
    handle := some { h with position := place + data.length } }

/-- Writes to the open file; writing nothing asks nothing of the file. -/
def write (s : DirectoryStore) (data : Bytes) : StoreResult DirectoryStore Nat :=
  match s.handle with
  | none => (.error .notOpen, s)
  | some h =>
    if data.isEmpty then (.ok 0, s)
    else if h.mode = .read then (.error (.io DiskError.badDescriptor.message), s)
    else
      let (result, taken) := s.faults.accept data
      (result, s.put h taken)

def close (s : DirectoryStore) : StoreResult DirectoryStore Unit :=
  match s.handle with
  | none => (.error .notOpen, s)
  | some _ => (.ok (), { s with handle := none })

instance : ByteStore DirectoryStore := ⟨mount, openFile, read, write, close⟩

end DirectoryStore
end FieldLogger
