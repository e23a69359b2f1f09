import FieldLogger.FileLogger
import FieldLogger.Storage.MemoryStore

/-! What the operations of the device do to a mounted store in memory: a read finds the contents and changes
    no file, a write leaves the file with the new contents, or empty if writing fails, and a logger adds to
    its file whether or not there is one. -/

namespace FieldLogger

/-! ### Files -/

namespace Files

@[simp] theorem get?_set_self (fs : Files) (path : String) (bytes : Bytes) :
    (fs.set path bytes).get? path = some bytes := by
  rw [get?_set, if_pos rfl]

theorem get?_set_of_ne {path p : String} (h : p ≠ path) (fs : Files) (bytes : Bytes) :
    (fs.set path bytes).get? p = fs.get? p := by
  rw [get?_set, if_neg h]

theorem setEntry_setEntry (path : String) (old bytes : Bytes) (es : List (String × Bytes)) :
    setEntry path bytes (setEntry path old es) = setEntry path bytes es := by
  induction es with
  | nil =>
    show setEntry path bytes [(path, old)] = [(path, bytes)]
    rw [setEntry, if_pos rfl]
  | cons e es ih =>
    obtain ⟨p, b⟩ := e
    by_cases hp : path = p
    · rw [setEntry, if_pos hp, setEntry, if_pos hp, setEntry, if_pos hp]
    · rw [setEntry, if_neg hp, setEntry, if_neg hp, ih, setEntry, if_neg hp]

theorem set_set (fs : Files) (path : String) (old bytes : Bytes) :
    (fs.set path old).set path bytes = fs.set path bytes :=
  congrArg Files.mk (setEntry_setEntry path old bytes fs.entries)

/-- The files with bytes added at the end of one of them, which is created if it does not exist. -/
def append (fs : Files) (path : String) (bytes : Bytes) : Files := fs.set path ((fs.get? path).getD [] ++ bytes)

end Files

/-! ### The store -/

namespace MemoryStore

theorem mount_ok {s s' : MemoryStore} (h : ByteStore.mount s = (.ok (), s')) : s' = { s with mounted := true } := by
  change s.mount = _ at h
  unfold mount at h
  split at h <;> cases h
  rfl

variable {s : MemoryStore} {path : String} {data : Bytes}

/-! ### Opening -/

theorem openFile_write (hs : s.mounted = true) (path : String) :
    ByteStore.openFile s path .write =
      (.ok (), { s with files := s.files.set path [], handle := some ⟨path, .write, 0⟩ }) := by
  change s.openFile path .write = _
  rw [openFile, hs, if_neg (by decide), if_pos rfl]

theorem openFile_existing (hs : s.mounted = true) {mode : OpenMode} (hm : mode ≠ .write)
    (h : s.files.get? path = some data) :
    ByteStore.openFile s path mode = (.ok (), { s with handle := some ⟨path, mode, 0⟩ }) := by
  change s.openFile path mode = _
  rw [openFile, hs, if_neg (by decide), if_neg hm, h, Option.isSome_some, if_pos rfl]

theorem openFile_missing (hs : s.mounted = true) {mode : OpenMode} (hm : mode ≠ .write)
    (h : s.files.get? path = none) :
    ByteStore.openFile s path mode = (.error (.openFailed path "arquivo inexistente"), s) := by
  change s.openFile path mode = _
  rw [openFile, hs, if_neg (by decide), if_neg hm, h, if_neg (by decide)]

theorem openFile_error {s s' : MemoryStore} {mode : OpenMode} {e : StorageError}
    (h : ByteStore.openFile s path mode = (.error e, s')) : s' = s := by
  change s.openFile path mode = _ at h
  unfold openFile at h
  split at h
  · exact (Prod.mk.inj h).2.symm
  · split at h
    · cases h
    · split at h
      · cases h
      · exact (Prod.mk.inj h).2.symm

/-! ### Reading -/

theorem readFile_of_get? (hs : s.mounted = true) (h : s.files.get? path = some data) (limit : Nat) :
    ByteStore.readFile s path limit = (.ok (data.take limit), { s with handle := none }) := by
  unfold ByteStore.readFile
  rw [openFile_existing hs (by decide) h]
  simp only [ByteStore.read, ByteStore.close, read, close, h, List.drop_zero]
  rfl

theorem readFile_of_missing (hs : s.mounted = true) (h : s.files.get? path = none) (limit : Nat) :
    ByteStore.readFile s path limit = (.error (.openFailed path "arquivo inexistente"), s) := by
  unfold ByteStore.readFile
  rw [openFile_missing hs (by decide) h]

/-! ### Writing -/

theorem writeFile_ok (hs : s.mounted = true) (hw : s.failWrites = false) (path : String) (data : Bytes) :
    ByteStore.writeFile s path .write data =
      (.ok data.length, { s with files := s.files.set path data, handle := none }) := by
  unfold ByteStore.writeFile
  rw [openFile_write hs]
  simp [ByteStore.write, ByteStore.close, write, close, hw, Files.set_set]
  rfl

theorem writeFile_unmounted (hs : s.mounted = false) (path : String) (mode : OpenMode) (data : Bytes) :
    ByteStore.writeFile s path mode data = (.error .notMounted, s) := by
  have hopen : ByteStore.openFile s path mode = (.error .notMounted, s) := by
    change s.openFile path mode = _
    rw [openFile, hs, if_pos (by decide)]
  rw [ByteStore.writeFile, hopen]

/-- A write that fails has already emptied the file. -/
theorem writeFile_failed (hs : s.mounted = true) (hw : s.failWrites = true) (path : String) (data : Bytes) :
    ByteStore.writeFile s path .write data =
      (.error (.io "falha simulada"), { s with files := s.files.set path [], handle := none }) := by
  unfold ByteStore.writeFile
  rw [openFile_write hs]
  simp only [ByteStore.write, ByteStore.close, write, close, hw]
  rfl

theorem writeFile_append (hs : s.mounted = true) (hw : s.failWrites = false) {old : Bytes}
    (h : s.files.get? path = some old) (data : Bytes) :
    ByteStore.writeFile s path .append data =
      (.ok data.length, { s with files := s.files.set path (old ++ data), handle := none }) := by
  unfold ByteStore.writeFile
  rw [openFile_existing hs (by decide) h]
  simp [ByteStore.write, ByteStore.close, write, close, hw, h]
  rfl

theorem writeFile_append_of_missing (hs : s.mounted = true) (h : s.files.get? path = none) (data : Bytes) :
    ByteStore.writeFile s path .append data = (.error (.openFailed path "arquivo inexistente"), s) := by
  unfold ByteStore.writeFile
  rw [openFile_missing hs (by decide) h]

theorem append_ok (hs : s.mounted = true) (hw : s.failWrites = false) (path : String) (data : Bytes) :
    FileLogger.append s path data =
      (.ok data.length, { s with files := s.files.append path data, handle := none }) := by
  unfold FileLogger.append Files.append
  cases h : s.files.get? path with
  | none =>
    rw [writeFile_append_of_missing hs h, Option.getD_none, List.nil_append]
    exact writeFile_ok hs hw path data
  | some old => rw [writeFile_append hs hw h, Option.getD_some]

end MemoryStore
end FieldLogger
