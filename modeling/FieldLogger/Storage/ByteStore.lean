import FieldLogger.Metadata

/-!
What the device needs of a file system: mount it, then open, read, write and close one file at a time.
An operation returns its outcome beside the store it leaves, since a failure may change the store too.
-/

namespace FieldLogger

/-- How a file is opened. -/
inductive OpenMode where
  | read
  /-- Creates the file or empties it. -/
  | write
  /-- Adds at the end; the file has to exist. -/
  | append
  deriving DecidableEq, Repr

/-- Why an operation on a store failed. -/
inductive StorageError where
  | mount (reason : String)
  | notMounted
  | openFailed (path reason : String)
  | notOpen
  | io (reason : String)
  | empty (path : String)
  | record (e : RecordError)
  | encoding
  deriving DecidableEq, Repr

def StorageError.message : StorageError → String
  | .mount reason => "Falha ao montar o armazenamento: " ++ reason
  | .notMounted => "Armazenamento não montado"
  | .openFailed path reason => "Falha ao abrir " ++ path ++ ": " ++ reason
  | .notOpen => "Nenhum arquivo aberto"
  | .io reason => "Erro de E/S: " ++ reason
  | .empty path => "Arquivo vazio: " ++ path
  | .record e => "Registro inválido: " ++ e.message
  | .encoding => "Registro de metadados não é UTF-8"

/-- The outcome of an operation on a store, and the store it leaves. -/
abbrev StoreResult (σ α : Type) := Except StorageError α × σ

/-- A file system with at most one open file. -/
class ByteStore (σ : Type) where
  mount : σ → StoreResult σ Unit
  openFile : σ → String → OpenMode → StoreResult σ Unit
  /-- Reads at most so many bytes from where the last read ended. -/
  read : σ → Nat → StoreResult σ Bytes
  /-- Writes the bytes and tells how many there were. -/
  write : σ → Bytes → StoreResult σ Nat
  close : σ → StoreResult σ Unit

namespace ByteStore
variable {σ : Type} [ByteStore σ]

/-- Opens a file, writes to it and closes it, also when the write failed; a failed write is reported before
a failed close. -/
def writeFile (s : σ) (path : String) (mode : OpenMode) (data : Bytes) : StoreResult σ Nat :=
  match openFile s path mode with
  | (.error e, s) => (.error e, s)
  | (.ok (), s) =>
    let (written, s) := write s data
    let (closed, s) := close s
    (written.bind fun n => closed.map fun _ => n, s)

/-- Opens a file, reads at most `limit` bytes and closes it, also when the read failed. -/
def readFile (s : σ) (path : String) (limit : Nat) : StoreResult σ Bytes :=
  match openFile s path .read with
  | (.error e, s) => (.error e, s)
  | (.ok (), s) =>
    let (data, s) := read s limit
    let (closed, s) := close s
    (data.bind fun bytes => closed.map fun _ => bytes, s)

end ByteStore
end FieldLogger
