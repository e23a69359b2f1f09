import FieldLogger.Storage.ByteStore

/-!
A store that keeps its files in memory and can be told to fail. An open file is known by its path, its mode
and how far it has been read; writing adds at the end of the file.
-/

namespace FieldLogger

/-! ### Files by path -/

/-- Files under their paths; no path stands twice. -/
structure Files where
  entries : List (String × Bytes)
  deriving DecidableEq, Repr

namespace Files

def empty : Files := ⟨[]⟩

/-- The contents under a path among entries. -/
def getEntry (path : String) : List (String × Bytes) → Option Bytes
  | [] => none
  | (p, b) :: rest => if path = p then some b else getEntry path rest

/-- Puts contents under a path among entries. -/
def setEntry (path : String) (bytes : Bytes) : List (String × Bytes) → List (String × Bytes)
  | [] => [(path, bytes)]
  | (p, b) :: rest => if path = p then (p, bytes) :: rest else (p, b) :: setEntry path bytes rest

/-- The contents of the file at a path. -/
def get? (fs : Files) (path : String) : Option Bytes := getEntry path fs.entries

/-- The files with those contents at a path. -/
def set (fs : Files) (path : String) (bytes : Bytes) : Files := ⟨setEntry path bytes fs.entries⟩

theorem getEntry_setEntry (path p : String) (bytes : Bytes) :
    ∀ es, getEntry p (setEntry path bytes es) = if p = path then some bytes else getEntry p es
  | [] => rfl
  | (q, b) :: rest => by
    have ih := getEntry_setEntry path p bytes rest
    grind [setEntry, getEntry]

theorem get?_set (fs : Files) (path : String) (bytes : Bytes) (p : String) :
    (fs.set path bytes).get? p = if p = path then some bytes else fs.get? p :=
  getEntry_setEntry path p bytes fs.entries

end Files

/-! ### The store -/

/-- An open file: where reading goes on, and what may be done with it. -/
structure MemoryHandle where
  path : String
  mode : OpenMode
  cursor : Nat
  deriving DecidableEq, Repr

/-- A store in memory. -/
structure MemoryStore where
  files : Files
  mounted : Bool
  handle : Option MemoryHandle
  /-- Mounting fails. -/
  failMount : Bool
  /-- Writing fails. -/
  failWrites : Bool
  deriving DecidableEq, Repr

namespace MemoryStore

/-- A store with those files, not mounted and without faults. -/
def ofFiles (files : Files) : MemoryStore := ⟨files, false, none, false, false⟩

def empty : MemoryStore := ofFiles .empty

def withFile (path : String) (contents : Bytes) : MemoryStore := ofFiles (Files.empty.set path contents)

def mount (s : MemoryStore) : StoreResult MemoryStore Unit :=
  if s.failMount then (.error (.mount "falha simulada"), s) else (.ok (), { s with mounted := true })

/-- Opens a file; a failure keeps the file that was open. -/
def openFile (s : MemoryStore) (path : String) (mode : OpenMode) : StoreResult MemoryStore Unit :=
  if !s.mounted then (.error .notMounted, s)
  else if mode = .write then
    (.ok (), { s with files := s.files.set path [], handle := some ⟨path, mode, 0⟩ })
  else if (s.files.get? path).isSome then (.ok (), { s with handle := some ⟨path, mode, 0⟩ })
  else (.error (.openFailed path "arquivo inexistente"), s)

/-- Reads on from where the last read of the open file ended. -/
def read (s : MemoryStore) (limit : Nat) : StoreResult MemoryStore Bytes :=
  match s.handle with
  | none => (.error .notOpen, s)
  | some h =>
    match s.files.get? h.path with
    | none => (.error .notOpen, s)
    | some data =>
      let chunk := (data.drop h.cursor).take limit
      (.ok chunk, { s with handle := some { h with cursor := h.cursor + chunk.length } })

/-- Adds at the end of the open file. -/
def write (s : MemoryStore) (data : Bytes) : StoreResult MemoryStore Nat :=
  if s.failWrites then (.error (.io "falha simulada"), s)
  else
    match s.handle with
    | none => (.error .notOpen, s)
    | some h =>
      if h.mode = .read then (.error (.io "arquivo aberto somente para leitura"), s)
      else
        let contents := (s.files.get? h.path).getD []
        (.ok data.length, { s with files := s.files.set h.path (contents ++ data) })

def close (s : MemoryStore) : StoreResult MemoryStore Unit :=
  match s.handle with
  | none => (.error .notOpen, s)
  | some _ => (.ok (), { s with handle := none })

instance : ByteStore MemoryStore := ⟨mount, openFile, read, write, close⟩

/-! ### Runs of operations -/

/-- An operation on a store in memory. -/
inductive Op where
  | mount
  | openFile (path : String) (mode : OpenMode)
  | read (limit : Nat)
  | write (data : Bytes)
  | close
  | setFailMount (fails : Bool)
  | setFailWrites (fails : Bool)
  deriving DecidableEq, Repr

/-- What an operation answers when it succeeds. -/
inductive Answer where
  | done
  | bytes (data : Bytes)
  | count (n : Nat)
  deriving DecidableEq, Repr

def step (s : MemoryStore) : Op → StoreResult MemoryStore Answer
  | .mount => (s.mount.1.map fun _ => .done, s.mount.2)
  | .openFile path mode => ((s.openFile path mode).1.map fun _ => .done, (s.openFile path mode).2)
  | .read limit => ((s.read limit).1.map .bytes, (s.read limit).2)
  | .write data => ((s.write data).1.map .count, (s.write data).2)
  | .close => (s.close.1.map fun _ => .done, s.close.2)
  | .setFailMount fails => (.ok .done, { s with failMount := fails })
  | .setFailWrites fails => (.ok .done, { s with failWrites := fails })

/-- The store after a run of operations. -/
def run (s : MemoryStore) (ops : List Op) : MemoryStore :=
  ops.foldl (fun s op => (s.step op).2) s

end MemoryStore
end FieldLogger
