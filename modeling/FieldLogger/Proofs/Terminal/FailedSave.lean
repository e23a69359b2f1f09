import Mathlib.Control.Monad.Basic
import FieldLogger.Proofs.Storage.DirectoryFiles
import FieldLogger.Proofs.Terminal.InMemory

/-! What a save that fails costs. The record in memory and its mark are kept, and so is everything else if the text
    was refused or the file could not be opened. A store that opens the file and then fails to write it has emptied
    it: what was saved before is gone. In memory the file is left empty (`Emptied`), on a directory it is left with
    the bytes that were taken before the host failed (`CutShort`). -/

namespace FieldLogger
namespace Registry

/-! ### Saves that fail -/

section
variable {σ : Type} [ByteStore σ]

/-- A text is handed over to be saved, by itself, for the terminal or by a line typed there, and is not saved. -/
inductive FailedSave (r : Registry σ) (record : String) : Registry σ → Prop where
  | committed {e : StorageError} {r' : Registry σ} (h : r.commit record = (.error e, r')) : FailedSave r record r'
  | notified {e : StorageError} {r' : Registry σ} (h : r.notify .terminal (.commit record) = (.failed e, r')) :
      FailedSave r record r'
  | typed {s : Session (Registry σ)} {line : String} (mediator : s.mediator = r)
      (staged : s.terminal.staged.toRecord = record) (saves : s.Saves line) (fails : ¬s.SavesWell line) :
      FailedSave r record (s.typeLine line).2.mediator

variable {r r' : Registry σ} {record : String}

theorem commit_of_not_isSuccess (h : ¬(r.notify .terminal (.commit record)).1.isSuccess = true) :
    ∃ e, r.commit record = (.error e, (r.notify .terminal (.commit record)).2) := by
  rw [isSuccess_commit] at h
  rw [notify_commit]
  cases hcommit : r.commit record with
  | mk result r' =>
    rw [hcommit] at h
    cases result with
    | ok u => exact absurd rfl h
    | error e => exact ⟨e, rfl⟩

theorem FailedSave.commit (h : FailedSave r record r') : ∃ e, r.commit record = (.error e, r') := by
  cases h with
  | committed h => exact ⟨_, h⟩
  | notified h =>
    have hfailed : ¬(r.notify .terminal (.commit record)).1.isSuccess = true := by
      rw [h]
      exact Bool.false_ne_true
    obtain ⟨e, hcommit⟩ := commit_of_not_isSuccess hfailed
    rw [h] at hcommit
    exact ⟨e, hcommit⟩
  | @typed s line mediator staged saves fails =>
    subst mediator
    subst staged
    rw [Session.typeLine_mediator, Session.request_of_saves saves, Session.asked_some]
    exact commit_of_not_isSuccess fun hok => fails ⟨saves, hok⟩

/-- A text that is not saved was refused, and nothing was touched, or its file could not be written. -/
theorem commit_error_cases {e : StorageError} (h : r.commit record = (.error e, r')) :
    (∃ refusal, r.metadata.applyRecord record = .error refusal ∧ r' = r) ∨
      ∃ n m store, r.metadata.applyRecord record = .ok (n, m) ∧
        ByteStore.writeFile r.store r.fileName .write (savedFile m) = (.error e, store) ∧ r' = { r with store } := by
  cases hrec : r.metadata.applyRecord record with
  | error refusal =>
    rw [commit_of_refused hrec] at h
    exact Or.inl ⟨refusal, rfl, (Prod.mk.inj h).2.symm⟩
  | ok taken =>
    obtain ⟨n, m⟩ := taken
    refine Or.inr ⟨n, m, r'.store, rfl, ?_⟩
    unfold commit at h
    rw [hrec] at h
    dsimp only at h
    split at h
    · rename_i e' hwrite
      obtain ⟨he, rfl⟩ := Prod.mk.inj h
      obtain rfl := Except.error.inj he
      exact ⟨Prod.ext hwrite rfl, rfl⟩
    · cases h

end

/-! ### What is left in memory -/

/-- The file of the record was emptied by a write that failed; nothing else changed. -/
structure Emptied (r r' : Registry MemoryStore) : Prop where
  failing : r.store.failWrites = true
  metadata : r'.metadata = r.metadata
  changed : r'.changed = r.changed
  file : r'.store.files.get? r.fileName = some []
  others : ∀ path ≠ r.fileName, r'.store.files.get? path = r.store.files.get? path
  /-- Reading it fails, whatever is in memory, and leaves that. -/
  unreadable : ∀ q : Registry MemoryStore, q.store = r'.store → q.fileName = r.fileName →
    q.retrieve = (.error (.empty r.fileName), q)
  /-- Nothing boots while writing fails. -/
  halted : ∀ q : Registry MemoryStore, q.store = r'.store → q.fileName = r.fileName →
    q.boot.1 = .error (.io "falha simulada")
  /-- Once files can be written, a boot makes a new device. -/
  reset : ∀ q : Registry MemoryStore, q.store = { r'.store with failWrites := false } → q.fileName = r.fileName →
    q.boot.1 = .ok .factory

theorem retrieve_of_emptyFile {q : Registry MemoryStore} (hs : q.store.mounted = true) (hhandle : q.store.handle = none)
    (hfile : q.store.files.get? q.fileName = some []) : q.retrieve = (.error (.empty q.fileName), q) := by
  obtain ⟨⟨files, mounted, handle, failMount, failWrites⟩, fileName, metadata, changed⟩ := q
  obtain rfl : handle = none := hhandle
  rw [retrieve_of_get? hs hfile]
  rfl

theorem emptied_of_failing {r : Registry MemoryStore} (hs : r.store.mounted = true) (hw : r.store.failWrites = true) :
    Emptied r (r.withFiles (r.store.files.set r.fileName [])) := by
  have hread : ∀ (failWrites : Bool) (q : Registry MemoryStore),
      q.store = { r.store with files := r.store.files.set r.fileName [], handle := none, failWrites } →
      q.fileName = r.fileName → q.retrieve = (.error (.empty q.fileName), q) := by
    intro failWrites q hstore hname
    apply retrieve_of_emptyFile
    · rw [hstore]
      exact hs
    · rw [hstore]
    · rw [hstore, hname]
      exact Files.get?_set_self _ _ _
  refine ⟨hw, rfl, rfl, Files.get?_set_self _ _ _, ?_, ?_, ?_, ?_⟩
  · intro path hpath
    exact Files.get?_set_of_ne hpath _ _
  · intro q hstore hname
    rw [hread r.store.failWrites q hstore hname, hname]
  · intro q hstore hname
    rw [boot_of_unreadable (hread r.store.failWrites q hstore hname),
      commit_of_failing (by rw [hstore]; exact hs) (by rw [hstore]; exact hw) Storable.factory]
    rfl
  · intro q hstore hname
    rw [boot_of_unreadable (hread false q hstore hname),
      commit_of_writable (by rw [hstore]; exact hs) (by rw [hstore]) Storable.factory, Metadata.tidy_factory]
    rfl

theorem FailedSave.memory {r r' : Registry MemoryStore} {record : String} (hs : r.store.mounted = true)
    (h : FailedSave r record r') :
    ((∃ refusal, r.metadata.applyRecord record = .error refusal) ∧ r' = r) ∨
      ((∃ n m, r.metadata.applyRecord record = .ok (n, m)) ∧ Emptied r r') := by
  obtain ⟨e, hcommit⟩ := h.commit
  rcases commit_error_cases hcommit with ⟨refusal, hrec, rfl⟩ | ⟨n, m, store, hrec, -, -⟩
  · exact Or.inl ⟨⟨refusal, hrec⟩, rfl⟩
  · refine Or.inr ⟨⟨n, m, hrec⟩, ?_⟩
    cases hw : r.store.failWrites with
    | false =>
      rw [commit_of_accepted hs hw hrec] at hcommit
      cases hcommit
    | true =>
      rw [commit_of_accepted_failing hs hw hrec] at hcommit
      obtain ⟨-, rfl⟩ := Prod.mk.inj hcommit
      exact emptied_of_failing hs hw

/-! ### What is left on a directory -/

theorem savedFile_ne_nil (m : Metadata) : savedFile m ≠ [] := by
  apply List.ne_nil_of_length_pos
  rw [length_savedFile]
  omega

/-- What the bytes of the file make of a registry. -/
def reread {σ : Type} (q : Registry σ) (bytes : Bytes) : Except StorageError Metadata × Registry σ :=
  match q.read (bytes.take readLimit) with
  | .error e => (.error e, q)
  | .ok m => (.ok m, q.adopt m)

/-- The file of the record holds these bytes in place of what it held; nothing else changed. -/
structure CutShort (r r' : Registry DirectoryStore) (kept : Bytes) : Prop where
  metadata : r'.metadata = r.metadata
  changed : r'.changed = r.changed
  file : ∃ location, r.store.Opens r.fileName location ∧ r'.store.disk.contents? location = some kept ∧
    ∀ other ≠ location, r'.store.disk.node? other = r.store.disk.node? other
  /-- Where the host opens and reads files, these bytes are what is read as the record. -/
  read : ∀ (faults : HostFaults) (q : Registry DirectoryStore), q.store = { r'.store with faults } →
    q.fileName = r.fileName → faults.opening = none → faults.reading = none → q.retrieve = q.reread kept
  /-- A boot takes them for the record. If they are none, it makes a new device, as far as the host lets it. -/
  booted : ∀ (faults : HostFaults) (q : Registry DirectoryStore), q.store = { r'.store with faults } →
    q.fileName = r.fileName → faults.opening = none → faults.reading = none →
    q.boot.1 = match (q.reread kept).1 with
      | .ok m => .ok m
      | .error _ => (faults.accept (savedFile .factory)).1.map fun _ => .factory

section
variable {q : Registry DirectoryStore} {s : DirectoryStore} {location : Location} {bytes : Bytes}

theorem retrieve_withFile (hstore : q.store = s.withFile location bytes) (h : s.Opens q.fileName location)
    (hreading : s.faults.reading = none) : q.retrieve = q.reread bytes := by
  rw [retrieve_eq, hstore, DirectoryStore.readFile_withFile h hreading, ← hstore]
  unfold reread
  dsimp only
  cases q.read (bytes.take readLimit) <;> rfl

theorem commit_of_opens (h : q.store.Opens q.fileName location) {record : String} {n : Nat} {m : Metadata}
    (hrec : q.metadata.applyRecord record = .ok (n, m)) :
    q.commit record =
      let (result, taken) := q.store.faults.accept (savedFile m)
      let store := q.store.withFile location taken
      match result with
      | .error e => (.error e, { q with store })
      | .ok _ => (.ok (), { q with store, metadata := m, changed := true }) := by
  unfold commit
  rw [hrec]
  dsimp only
  have hwrite := DirectoryStore.writeFile_of_opens h (savedFile_ne_nil m)
  unfold savedFile at hwrite ⊢
  rw [hwrite]
  rfl

theorem boot_withFile (hstore : q.store = s.withFile location bytes) (h : s.Opens q.fileName location)
    (hreading : s.faults.reading = none) :
    q.boot.1 = match (q.reread bytes).1 with
      | .ok m => .ok m
      | .error _ => (s.faults.accept (savedFile .factory)).1.map fun _ => .factory := by
  have hretrieve := retrieve_withFile hstore h hreading
  have hfaults : q.store.faults = s.faults := by
    rw [hstore]
    rfl
  have hopens : q.store.Opens q.fileName location := by
    rw [hstore]
    exact h.withFile bytes
  have hfactory := Metadata.applyRecord_toRecord q.metadata Storable.factory
  rw [Metadata.tidy_factory] at hfactory
  unfold reread at hretrieve ⊢
  cases hread : q.read (bytes.take readLimit) with
  | ok m =>
    rw [hread] at hretrieve
    rw [boot_of_retrieve hretrieve]
  | error e =>
    rw [hread] at hretrieve
    rw [boot_of_unreadable hretrieve, commit_of_opens hopens hfactory, hfaults]
    dsimp only
    cases (s.faults.accept (savedFile .factory)).1 <;> rfl

/-- Nothing is lost but what the file held. -/
theorem cutShort_withFile {r : Registry DirectoryStore} (h : r.store.Opens r.fileName location) (kept : Bytes) :
    CutShort r { r with store := r.store.withFile location kept } kept := by
  have hl := Disk.ne_nil_of_node? h.leads.noDirectory
  have hopens : ∀ (faults : HostFaults) (q : Registry DirectoryStore), q.fileName = r.fileName →
      faults.opening = none → DirectoryStore.Opens { r.store with faults } q.fileName location := by
    intro faults q hname hopening
    rw [hname]
    exact ⟨h.mounted, hopening, h.leads⟩
  refine ⟨rfl, rfl, ⟨location, h, Disk.contents?_setNode_file hl kept, fun other hother => ?_⟩, ?_, ?_⟩
  · exact (Disk.node?_setNode hl _ other).trans (if_neg hother)
  · intro faults q hstore hname hopening hreading
    exact retrieve_withFile hstore (hopens faults q hname hopening) hreading
  · intro faults q hstore hname hopening hreading
    exact boot_withFile hstore (hopens faults q hname hopening) hreading

end

theorem FailedSave.directory {r r' : Registry DirectoryStore} {record : String} (h : FailedSave r record r') :
    ((∃ refusal, r.metadata.applyRecord record = .error refusal) ∧ r' = r) ∨
      ∃ n m, r.metadata.applyRecord record = .ok (n, m) ∧
        (((¬∃ location, r.store.Opens r.fileName location) ∧ r' = r) ∨
          ∃ fault, r.store.faults.writing = some fault ∧ fault.taken < (savedFile m).length ∧
            CutShort r r' ((savedFile m).take fault.taken)) := by
  obtain ⟨e, hcommit⟩ := h.commit
  rcases commit_error_cases hcommit with ⟨refusal, hrec, rfl⟩ | ⟨n, m, store, hrec, hwrite, rfl⟩
  · exact Or.inl ⟨⟨refusal, hrec⟩, rfl⟩
  · refine Or.inr ⟨n, m, hrec, ?_⟩
    rcases DirectoryStore.writeFile_error (savedFile_ne_nil m) hwrite with
      ⟨hclosed, rfl⟩ | ⟨location, fault, hopens, hwriting, hless, rfl⟩
    · exact Or.inl ⟨hclosed, rfl⟩
    · exact Or.inr ⟨fault, hwriting, hless, cutShort_withFile hopens _⟩

/-! ### What was saved before -/

/-- A save that fails keeps the record in memory and its mark, and if the text is no record or the file cannot be
    opened, everything. Otherwise what was saved before is gone: a store in memory has emptied the file, and one on a
    directory has left the first of the new bytes in it, which are the record from then on. -/
theorem failed_save_outcome :
    (∀ {r r' : Registry MemoryStore} {record : String}, r.store.mounted = true → FailedSave r record r' →
      ((∃ refusal, r.metadata.applyRecord record = .error refusal) ∧ r' = r) ∨
        ((∃ n m, r.metadata.applyRecord record = .ok (n, m)) ∧ Emptied r r')) ∧
      ∀ {r r' : Registry DirectoryStore} {record : String}, FailedSave r record r' →
        ((∃ refusal, r.metadata.applyRecord record = .error refusal) ∧ r' = r) ∨
          ∃ n m, r.metadata.applyRecord record = .ok (n, m) ∧
            (((¬∃ location, r.store.Opens r.fileName location) ∧ r' = r) ∨
              ∃ fault, r.store.faults.writing = some fault ∧ fault.taken < (savedFile m).length ∧
                CutShort r r' ((savedFile m).take fault.taken)) :=
  ⟨FailedSave.memory, FailedSave.directory⟩

/-- An edited record that is saved with the key into a store that fails to write, one that is saved into a file in
    whose place there is a directory, and one of which a full disk takes four bytes: the next boot is of a station
    with these for its name. -/
theorem failed_save_outcome_bench :
    let store : MemoryStore := { MemoryStore.empty with mounted := true, failWrites := true }
    let s : Session (Registry MemoryStore) :=
      { terminal := { Terminal.ofMetadata .factory with screen := .deviceConfig }
        clock := ⟨⟨2023, 11, 4, by decide⟩, ⟨8, 15, 0, by decide⟩⟩
        mediator := .ofStore store "metadata.txt" }
    let blocked : Registry DirectoryStore :=
      .ofStore ⟨⟨[(["metadata.txt"], .directory)], []⟩, "", true, none, .none⟩ "metadata.txt"
    let saved := Utf8.encode "station9;0;5;10;60\n"
    let full : Registry DirectoryStore :=
      .ofStore ⟨⟨[(["metadata.txt"], .file saved)], []⟩, "", true, none,
        { HostFaults.none with writing := some ⟨4, "No space left on device (os error 28)"⟩ }⟩ "metadata.txt"
    let later : Registry DirectoryStore :=
      .ofStore { (full.commit "other;1;1;1;1").2.store with faults := .none } "metadata.txt"
    s.mediator.store.mounted = true ∧
      FailedSave s.mediator Metadata.factory.toRecord (s.typeLine "s").2.mediator ∧
      Emptied s.mediator (s.typeLine "s").2.mediator ∧
      blocked.commit "other;1;1;1;1" =
        (.error (.openFailed "metadata.txt" "Is a directory (os error 21)"), (blocked.commit "other;1;1;1;1").2) ∧
      (blocked.commit "other;1;1;1;1").2 = blocked ∧
      full.retrieve.1 = .ok ⟨"station9", .daily, 5, 10, 60⟩ ∧
      full.commit "other;1;1;1;1" =
        (.error (.io "No space left on device (os error 28)"), (full.commit "other;1;1;1;1").2) ∧
      CutShort full (full.commit "other;1;1;1;1").2 (Utf8.encode "othe") ∧
      later.boot.1 = .ok { Metadata.factory with name := "othe" } := by
  intro store s blocked saved full later
  have hmemory : FailedSave s.mediator Metadata.factory.toRecord (s.typeLine "s").2.mediator := by
    refine .typed rfl rfl ⟨rfl, by decide +kernel⟩ ?_
    rintro ⟨-, hok⟩
    have hfailed : (s.mediator.notify .terminal (.commit Metadata.factory.toRecord)).1 =
        .failed (.io "falha simulada") := by decide +kernel
    change (s.mediator.notify .terminal (.commit Metadata.factory.toRecord)).1.isSuccess = true at hok
    rw [hfailed] at hok
    cases hok
  have hblocked : blocked.commit "other;1;1;1;1" =
      (.error (.openFailed "metadata.txt" "Is a directory (os error 21)"), (blocked.commit "other;1;1;1;1").2) := by
    decide +kernel
  have hfull : full.commit "other;1;1;1;1" =
      (.error (.io "No space left on device (os error 28)"), (full.commit "other;1;1;1;1").2) := by
    decide +kernel
  have hother : full.metadata.applyRecord "other;1;1;1;1" = .ok (5, { Metadata.factory with name := "other" }) := by
    decide +kernel
  have hkept : (blocked.commit "other;1;1;1;1").2 = blocked := by
    rcases failed_save_outcome.2 (.committed hblocked) with ⟨-, hsame⟩ | ⟨-, -, -, ⟨-, hsame⟩ | ⟨fault, hwriting, -⟩⟩
    · exact hsame
    · exact hsame
    · cases hwriting
  have hlost : CutShort full (full.commit "other;1;1;1;1").2 (Utf8.encode "othe") := by
    have hchanged : (full.commit "other;1;1;1;1").2 ≠ full := by decide +kernel
    rcases failed_save_outcome.2 (.committed hfull) with
      ⟨-, hsame⟩ | ⟨n, m, hrec, ⟨-, hsame⟩ | ⟨fault, hwriting, -, hcut⟩⟩
    · exact absurd hsame hchanged
    · exact absurd hsame hchanged
    · obtain ⟨-, rfl⟩ := Prod.mk.inj (Except.ok.inj (hother.symm.trans hrec))
      obtain rfl := Option.some.inj hwriting
      have hfirst : (savedFile { Metadata.factory with name := "other" }).take 4 = Utf8.encode "othe" := by
        decide +kernel
      rwa [hfirst] at hcut
  have hread : (later.reread (Utf8.encode "othe")).1 = .ok { Metadata.factory with name := "othe" } := by decide +kernel
  have hboot := hlost.booted .none later rfl rfl rfl rfl
  rw [hread] at hboot
  refine ⟨rfl, hmemory, ?_, hblocked, hkept, by decide +kernel, hfull, hlost, hboot⟩
  rcases failed_save_outcome.1 rfl hmemory with ⟨⟨refusal, hrefused⟩, -⟩ | ⟨-, hemptied⟩
  · have htaken := Metadata.applyRecord_toRecord Metadata.factory Storable.factory
    exact absurd (hrefused.symm.trans htaken) nofun
  · exact hemptied

/-- A record that could be read before a save that failed, and not after it. -/
theorem failed_save_loses_record :
    let store : MemoryStore :=
      { MemoryStore.withFile "metadata.txt" (Utf8.encode "station9;0;5;10;60\n") with
        mounted := true
        failWrites := true }
    let r : Registry MemoryStore := .ofStore store "metadata.txt"
    ∃ r', r.retrieve.1 = .ok ⟨"station9", .daily, 5, 10, 60⟩ ∧
      r.commit "other;1;1;1;1" = (.error (.io "falha simulada"), r') ∧
      r'.store.files.get? "metadata.txt" ≠ r.store.files.get? "metadata.txt" ∧
      r'.retrieve.1 = .error (.empty "metadata.txt") ∧
      (Registry.ofStore { r'.store with failWrites := false } "metadata.txt").boot.1 = .ok .factory := by
  intro store r
  refine ⟨(r.commit "other;1;1;1;1").2, ?_, ?_, ?_, ?_, ?_⟩ <;> decide +kernel

end Registry
end FieldLogger
