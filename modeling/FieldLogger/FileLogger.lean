import FieldLogger.Pipeline
import FieldLogger.Rotation
import FieldLogger.Storage.ByteStore

/-!
The observer that keeps measurements. The record that waits in its slot is added to the file of the day, which is
created if it does not exist. The slot is emptied first, so a record that cannot be written is dropped.
-/

namespace FieldLogger

/-- A store for measurements, the naming of its files, and the record that waits. -/
structure FileLogger (σ : Type) where
  store : σ
  name : String
  period : FilePeriod
  slot : Slot
  deriving DecidableEq, Repr

namespace FileLogger
variable {σ : Type}

/-- A logger that names its files after the metadata. -/
def ofStore (store : σ) (m : Metadata) : FileLogger σ := ⟨store, m.name, m.filePeriod, .empty⟩

/-- Names later files after the metadata. -/
def applyMetadata (l : FileLogger σ) (m : Metadata) : FileLogger σ :=
  { l with name := m.name, period := m.filePeriod }

/-- The file for measurements of that date. -/
def fileName (l : FileLogger σ) (date : Date) : String := Rotation.fileName l.name l.period date

variable [ByteStore σ]

def mount (l : FileLogger σ) : Except StorageError Unit × FileLogger σ :=
  let (result, store) := ByteStore.mount l.store
  (result, { l with store })

/-- Adds bytes to a file, or creates the file with them if it cannot be opened for that. -/
def append (store : σ) (path : String) (data : Bytes) : StoreResult σ Nat :=
  match ByteStore.writeFile store path .append data with
  | (.error (.openFailed _ _), store) => ByteStore.writeFile store path .write data
  | answer => answer

/-- Adds the record that waits, if there is one, to the file of the date, and tells which file that was. -/
def flush (l : FileLogger σ) (date : Date) : Except StorageError (Option String) × FileLogger σ :=
  match l.slot.take with
  | (none, _) => (.ok none, l)
  | (some record, slot) =>
    let path := l.fileName date
    let (written, store) := append l.store path (Utf8.encode record)
    (written.map fun _ => some path, { l with store, slot })

end FileLogger
end FieldLogger
