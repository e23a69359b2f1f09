import FieldLogger.Proofs.Storage.DirectoryFiles
import FieldLogger.Proofs.Storage.MemoryFiles

/-! No file is left open. Reading and writing a file open it and close it again, whatever fails in between, so that a
    store without an open file is without one afterwards. Both stores know whether they have one (`Closing`). -/

namespace FieldLogger
namespace ByteStore

/-- A store of which it can be said that no file is open: so it is once it was told to close, and it stays so when a
    file could not be opened. -/
class Closing (σ : Type) [ByteStore σ] where
  Closed : σ → Prop
  closed_openFile {s s' : σ} {path : String} {mode : OpenMode} {e : StorageError} (h : Closed s)
    (hopen : openFile s path mode = (.error e, s')) : Closed s'
  closed_close (s : σ) : Closed (close s).2

section
variable {σ : Type} [ByteStore σ] [Closing σ] {s : σ}

open Closing

theorem closed_readFile (h : Closed s) (path : String) (limit : Nat) : Closed (readFile s path limit).2 := by
  unfold readFile
  cases hopen : openFile s path .read with
  | mk result s' =>
    cases result with
    | error e => exact closed_openFile h hopen
    | ok u => exact closed_close _

theorem closed_writeFile (h : Closed s) (path : String) (mode : OpenMode) (data : Bytes) :
    Closed (writeFile s path mode data).2 := by
  unfold writeFile
  cases hopen : openFile s path mode with
  | mk result s' =>
    cases result with
    | error e => exact closed_openFile h hopen
    | ok u => exact closed_close _

end
end ByteStore

/-! ### The two stores -/

instance : ByteStore.Closing MemoryStore where
  Closed s := s.handle = none
  closed_openFile h hopen := by
    obtain rfl := MemoryStore.openFile_error hopen
    exact h
  closed_close s := by
    change s.close.2.handle = none
    unfold MemoryStore.close
    split
    · assumption
    · rfl

instance : ByteStore.Closing DirectoryStore where
  Closed s := s.handle = none
  closed_openFile {s s' path mode e} h hopen := by
    rcases DirectoryStore.openFile_cases s path mode with ⟨e', hfailed⟩ | ⟨-, -, location, disk, -, hopened⟩
    · obtain ⟨-, rfl⟩ := Prod.mk.inj (hfailed.symm.trans hopen)
      exact h
    · cases hopened.symm.trans hopen
  closed_close s := by
    change s.close.2.handle = none
    unfold DirectoryStore.close
    split
    · assumption
    · rfl

end FieldLogger
