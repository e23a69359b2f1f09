import FieldLogger.Storage.ByteStore

/-!
The owner of the device record: what is in memory, the file it is kept in, and whether it changed since that
was last asked. The record in memory changes only when the file was read or written without a failure.
`Mediator` is what a terminal may ask for, and a registry answers it.
-/

namespace FieldLogger

/-! ### The first line of a file -/

/-- The text before the first newline or NUL; a character cut at the end is dropped, and bytes that are in
no text are an error. -/
def firstLine (raw : Bytes) : Except StorageError String :=
  let line := Utf8.scan (raw.takeWhile fun b => b != 10 && b != 0)
  if line.ending = .invalid then .error .encoding else .ok (String.ofList line.text)

/-! ### The registry -/

/-- The record in memory and its file in a store. -/
structure Registry (σ : Type) where
  store : σ
  fileName : String
  metadata : Metadata
  /-- The record was read or written since this was last asked. -/
  changed : Bool
  deriving DecidableEq, Repr

namespace Registry
variable {σ : Type}

/-- The most bytes that are read of the file. -/
def readLimit : Nat := 256

/-- A registry that has read nothing yet. -/
def ofStore (store : σ) (fileName : String) : Registry σ := ⟨store, fileName, .factory, false⟩

/-- The registry with a record that was just read or written. -/
def adopt (r : Registry σ) (m : Metadata) : Registry σ := { r with metadata := m, changed := true }

/-- What the bytes of the file make of the record in memory. -/
def read (r : Registry σ) (raw : Bytes) : Except StorageError Metadata :=
  if raw.isEmpty then .error (.empty r.fileName)
  else
    (firstLine raw).bind fun line =>
      match r.metadata.applyRecord line with
      | .ok (_, m) => .ok m
      | .error e => .error (.record e)

/-- Tells whether the record changed and forgets it. -/
def takeChanged (r : Registry σ) : Bool × Registry σ := (r.changed, { r with changed := false })

variable [ByteStore σ]

def mount (r : Registry σ) : Except StorageError Unit × Registry σ :=
  let (result, store) := ByteStore.mount r.store
  (result, { r with store })

/-- Reads the file over the record in memory. -/
def retrieve (r : Registry σ) : Except StorageError Metadata × Registry σ :=
  let (data, store) := ByteStore.readFile r.store r.fileName readLimit
  let r := { r with store }
  match data.bind r.read with
  | .error e => (.error e, r)
  | .ok m => (.ok m, r.adopt m)

/-- Applies a record to the one in memory and writes the whole of it; the text is checked before the file
is touched. -/
def commit (r : Registry σ) (record : String) : Except StorageError Unit × Registry σ :=
  match r.metadata.applyRecord record with
  | .error e => (.error (.record e), r)
  | .ok (_, m) =>
    let (written, store) :=
      ByteStore.writeFile r.store r.fileName .write (Utf8.encode (m.toRecord ++ "\n"))
    let r := { r with store }
    match written with
    | .error e => (.error e, r)
    | .ok _ => (.ok (), r.adopt m)

/-- Reads the file; where that fails, writes the record of a new device. -/
def boot (r : Registry σ) : Except StorageError Metadata × Registry σ :=
  match r.retrieve with
  | (.ok m, r) => (.ok m, r)
  | (.error _, r) =>
    let (written, r) := r.commit Metadata.factory.toRecord
    (written.map fun _ => r.metadata, r)

/-- Mounts the store and then boots. -/
def start (r : Registry σ) : Except StorageError Metadata × Registry σ :=
  match r.mount with
  | (.error e, r) => (.error e, r)
  | (.ok (), r) => r.boot

end Registry

/-! ### Asking for the record -/

/-- Who asks. -/
inductive Component where
  | terminal
  | internalStorage
  deriving DecidableEq, Repr

/-- What is asked for. -/
inductive Notice where
  /-- Read the record again. -/
  | refresh
  /-- Keep this record. -/
  | commit (record : String)
  deriving DecidableEq, Repr

/-- The answer. -/
inductive Reply where
  | refreshed (m : Metadata)
  | committed
  | failed (e : StorageError)
  /-- That component may not ask. -/
  | unsupported
  deriving DecidableEq, Repr

namespace Reply

/-- 1 for success and 0 for failure. -/
def status : Reply → Nat
  | refreshed _ | committed => 1
  | failed _ | unsupported => 0

/-- The status is the one of success. -/
def isSuccess (r : Reply) : Bool := r.status == 1

end Reply

/-- What stands between the terminal and the record. -/
class Mediator (μ : Type) where
  notify : μ → Component → Notice → Reply × μ

/-- A registry answers the terminal and nobody else. -/
def Registry.notify {σ : Type} [ByteStore σ] (r : Registry σ) : Component → Notice → Reply × Registry σ
  | .internalStorage, _ => (.unsupported, r)
  | .terminal, .refresh =>
    match r.retrieve with
    | (.ok m, r) => (.refreshed m, r)
    | (.error e, r) => (.failed e, r)
  | .terminal, .commit record =>
    match r.commit record with
    | (.ok (), r) => (.committed, r)
    | (.error e, r) => (.failed e, r)

instance {σ : Type} [ByteStore σ] : Mediator (Registry σ) := ⟨Registry.notify⟩

end FieldLogger
