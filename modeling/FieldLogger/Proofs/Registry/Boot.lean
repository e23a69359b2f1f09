import Mathlib.Control.Monad.Basic
import FieldLogger.Proofs.Registry.Settled
import FieldLogger.Proofs.Text.Scanning

/-! What a registry boots with, whatever its file holds (`boot_keeps_or_resets`). A file that begins with a record is
    kept and read; over any other the record of a new device is written. Booting again finds the same record and
    changes nothing more. -/

namespace FieldLogger
namespace Registry

/-! ### The record that a file begins with -/

/-- What is read of the file begins with a line that is a record: it is a text, and not blank. -/
def FirstRecord (files : Files) (fileName line : String) : Prop :=
  ∃ data, files.get? fileName = some data ∧ firstLine (data.take readLimit) = .ok line ∧ Text.trim line.toList ≠ []

theorem firstRecord_savedFile (files : Files) (fileName : String) {m : Metadata} (hm : Storable m.name) :
    FirstRecord (files.set fileName (savedFile m)) fileName m.toRecord := by
  refine ⟨savedFile m, Files.get?_set_self _ _ _, ?_, ?_⟩
  · have hsize := Metadata.size_recordChars_le hm
    have hlimit : readLimit = 256 := rfl
    exact firstLine_encode (Metadata.not_endsLine_of_mem_recordChars hm.plain) (by omega)
  · intro hblank
    rw [Metadata.toRecord, String.toList_ofList, ← Metadata.recordFields_eq_nil_iff,
      Metadata.recordFields_recordChars hm.plain] at hblank
    cases hblank

/-! ### Reading -/

section
variable {σ : Type} {r : Registry σ} {raw : Bytes}

theorem read_of_firstLine {line : String} (hline : firstLine raw = .ok line) (hblank : Text.trim line.toList ≠ []) :
    ∃ n m, r.metadata.applyRecord line = .ok (n, m) ∧ r.read raw = .ok m := by
  obtain ⟨n, m, hrec⟩ := (Metadata.applyRecord_line r.metadata (not_endsLine_of_firstLine hline)).2 hblank
  refine ⟨n, m, hrec, read_of_line ?_ hline hrec⟩
  cases raw with
  | nil =>
    obtain rfl := Except.ok.inj hline
    exact absurd rfl hblank
  | cons b raw => rfl

theorem firstLine_of_read {m : Metadata} (h : r.read raw = .ok m) :
    ∃ line, firstLine raw = .ok line ∧ Text.trim line.toList ≠ [] := by
  obtain ⟨-, line, n, hline, hrec⟩ := read_ok h
  refine ⟨line, hline, fun hblank => ?_⟩
  rw [(Metadata.applyRecord_line r.metadata (not_endsLine_of_firstLine hline)).1 hblank] at hrec
  cases hrec

end

variable {r : Registry MemoryStore}

theorem retrieve_of_firstRecord (hs : r.store.mounted = true) {line : String}
    (h : FirstRecord r.store.files r.fileName line) :
    ∃ n m, r.metadata.applyRecord line = .ok (n, m) ∧
      r.retrieve = (.ok m, (r.withFiles r.store.files).adopt m) := by
  obtain ⟨data, hfile, hline, hblank⟩ := h
  obtain ⟨n, m, hrec, hread⟩ := read_of_firstLine (r := r) hline hblank
  refine ⟨n, m, hrec, ?_⟩
  rw [retrieve_of_get? hs hfile, hread]

theorem retrieve_of_no_firstRecord (hs : r.store.mounted = true)
    (h : ¬∃ line, FirstRecord r.store.files r.fileName line) :
    ∃ e handle, r.retrieve = (.error e, { r with store := { r.store with handle } }) := by
  cases hfile : r.store.files.get? r.fileName with
  | none => exact ⟨_, r.store.handle, retrieve_of_missing hs hfile⟩
  | some data =>
    rw [retrieve_of_get? hs hfile]
    cases hread : r.read (data.take readLimit) with
    | error e => exact ⟨e, none, rfl⟩
    | ok m =>
      obtain ⟨line, hline, hblank⟩ := firstLine_of_read hread
      exact absurd ⟨line, data, hfile, hline, hblank⟩ h

/-! ### Booting -/

theorem boot_of_firstRecord (hs : r.store.mounted = true) {line : String}
    (h : FirstRecord r.store.files r.fileName line) :
    ∃ n m, r.metadata.applyRecord line = .ok (n, m) ∧ r.boot = (.ok m, (r.withFiles r.store.files).adopt m) := by
  obtain ⟨n, m, hrec, hread⟩ := retrieve_of_firstRecord hs h
  exact ⟨n, m, hrec, boot_of_retrieve hread⟩

theorem boot_of_no_firstRecord (hs : r.store.mounted = true) (hw : r.store.failWrites = false)
    (h : ¬∃ line, FirstRecord r.store.files r.fileName line) :
    r.boot = (.ok .factory, (r.withFiles (r.store.files.set r.fileName (savedFile .factory))).adopt .factory) := by
  obtain ⟨e, handle, hread⟩ := retrieve_of_no_firstRecord hs h
  have hsave := commit_of_writable (r := { r with store := { r.store with handle } }) hs hw Storable.factory
  rw [Metadata.tidy_factory] at hsave
  rw [boot_of_unreadable hread, hsave]
  rfl

theorem boot_of_no_firstRecord_failing (hs : r.store.mounted = true) (hw : r.store.failWrites = true)
    (h : ¬∃ line, FirstRecord r.store.files r.fileName line) :
    r.boot = (.error (.io "falha simulada"), r.withFiles (r.store.files.set r.fileName [])) := by
  obtain ⟨e, handle, hread⟩ := retrieve_of_no_firstRecord hs h
  have hsave := commit_of_failing (r := { r with store := { r.store with handle } }) hs hw Storable.factory
  rw [boot_of_unreadable hread, hsave]
  rfl

/-- After a boot the file begins with a record, and the record in memory is that of a new device under it. -/
theorem firstRecord_of_boot {s : MemoryStore} (hs : s.mounted = true) {fileName : String} {m : Metadata}
    {r' : Registry MemoryStore} (h : (Registry.ofStore s fileName).boot = (.ok m, r')) :
    r'.metadata = m ∧ r'.changed = true ∧ r'.store.mounted = true ∧
      ∃ line n, FirstRecord r'.store.files fileName line ∧ Metadata.factory.applyRecord line = .ok (n, m) := by
  by_cases hfirst : ∃ line, FirstRecord s.files fileName line
  · obtain ⟨line, hfirst⟩ := hfirst
    obtain ⟨n, m', hrec, hboot⟩ := boot_of_firstRecord (r := .ofStore s fileName) hs hfirst
    obtain ⟨hm, rfl⟩ := Prod.mk.inj (hboot.symm.trans h)
    obtain rfl := Except.ok.inj hm
    exact ⟨rfl, rfl, hs, line, n, hfirst, hrec⟩
  · cases hw : s.failWrites with
    | false =>
      have hboot := boot_of_no_firstRecord (r := .ofStore s fileName) hs hw hfirst
      obtain ⟨hm, rfl⟩ := Prod.mk.inj (hboot.symm.trans h)
      obtain rfl := Except.ok.inj hm
      have hrec := Metadata.applyRecord_toRecord .factory Storable.factory
      rw [Metadata.tidy_factory] at hrec
      exact ⟨rfl, rfl, hs, _, _, firstRecord_savedFile s.files fileName Storable.factory, hrec⟩
    | true =>
      have hboot := boot_of_no_firstRecord_failing (r := .ofStore s fileName) hs hw hfirst
      cases hboot.symm.trans h

theorem savedFile_factory : savedFile .factory = Utf8.encode "defaultLogger;1;1;1;1\n" := by decide +kernel

/-- A fresh registry over a mounted store keeps a file that begins with a record and has that record in memory. Any
    other file it replaces by the record of a new device; where writing fails, so does the boot. After a boot the
    change is marked, and the next boot finds the same record and leaves every file. -/
theorem boot_keeps_or_resets {s : MemoryStore} (hs : s.mounted = true) (fileName : String) :
    let r := Registry.ofStore s fileName
    (∀ line, FirstRecord s.files fileName line → ∃ m r', Metadata.ofRecord line = .ok m ∧ r.boot = (.ok m, r') ∧
      r'.metadata = m ∧ r'.store.files = s.files) ∧
    ((¬∃ line, FirstRecord s.files fileName line) →
      (s.failWrites = false → ∃ r', r.boot = (.ok .factory, r') ∧ r'.metadata = .factory ∧
        r'.store.files = s.files.set fileName (Utf8.encode "defaultLogger;1;1;1;1\n")) ∧
      (s.failWrites = true → ∃ e r', r.boot = (.error e, r') ∧ r'.metadata = .factory)) ∧
    ∀ m r', r.boot = (.ok m, r') → r'.metadata = m ∧ r'.changed = true ∧ r'.store.mounted = true ∧
      ∀ s' : MemoryStore, s'.mounted = true → s'.files = r'.store.files →
        ∃ q, (Registry.ofStore s' fileName).boot = (.ok m, q) ∧ q.metadata = m ∧ q.store.files = s'.files := by
  intro r
  refine ⟨fun line hline => ?_, fun hnone => ⟨fun hw => ?_, fun hw => ?_⟩, fun m r' hboot => ?_⟩
  · obtain ⟨n, m, hrec, hboot⟩ := boot_of_firstRecord (r := r) hs hline
    refine ⟨m, _, ?_, hboot, rfl, rfl⟩
    change Metadata.factory.applyRecord line = _ at hrec
    rw [Metadata.ofRecord, hrec]
    rfl
  · have hboot := boot_of_no_firstRecord (r := r) hs hw hnone
    rw [savedFile_factory] at hboot
    exact ⟨_, hboot, rfl, rfl⟩
  · exact ⟨_, _, boot_of_no_firstRecord_failing (r := r) hs hw hnone, rfl⟩
  · obtain ⟨hmeta, hchanged, hmounted, line, n, hfirst, hrec⟩ := firstRecord_of_boot hs hboot
    refine ⟨hmeta, hchanged, hmounted, fun s' hs' hfiles => ?_⟩
    rw [← hfiles] at hfirst
    obtain ⟨n', m', hrec', hagain⟩ := boot_of_firstRecord (r := .ofStore s' fileName) hs' hfirst
    obtain ⟨-, rfl⟩ := Prod.mk.inj (Except.ok.inj (hrec.symm.trans hrec'))
    exact ⟨_, hagain, rfl, rfl⟩

/-- A line with only some of its fields is kept, whatever bytes follow it and even where nothing can be written. -/
theorem boot_keeps_or_resets_partial_line :
    let data := Utf8.encode " estação 7 ;2;5;x;9" ++ [13, 10, 255, 254]
    let s : MemoryStore :=
      { MemoryStore.withFile "metadata.txt" data with mounted := true, failWrites := true }
    let m : Metadata := ⟨"estação 7", .monthly, 5, 1, 9⟩
    s.mounted = true ∧ FirstRecord s.files "metadata.txt" " estação 7 ;2;5;x;9\r" ∧
      ∃ r', (Registry.ofStore s "metadata.txt").boot = (.ok m, r') ∧ r'.store.files = s.files := by
  intro data s m
  have hfirst : FirstRecord s.files "metadata.txt" " estação 7 ;2;5;x;9\r" := by
    refine ⟨data, ?_, ?_, ?_⟩ <;> decide +kernel
  obtain ⟨m', r', hrec, hboot, -, hfiles⟩ := (boot_keeps_or_resets (s := s) rfl "metadata.txt").1 _ hfirst
  have hm : Metadata.ofRecord " estação 7 ;2;5;x;9\r" = .ok m := by decide +kernel
  obtain rfl := Except.ok.inj (hm.symm.trans hrec)
  exact ⟨rfl, hfirst, r', hboot, hfiles⟩

end Registry
end FieldLogger
