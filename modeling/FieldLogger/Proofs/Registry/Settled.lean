import FieldLogger.Proofs.Registry.Outcomes
import FieldLogger.Proofs.Storage.MemoryFiles

/-! The record in memory and its file, over a store in memory. A registry that has booted is `Settled`: reading the
    file again leaves the record in memory. Saving keeps that, also when it fails and empties the file, and a
    save that succeeds leaves the same record in both (`Holds`). -/

namespace FieldLogger
namespace Registry

/-! ### The file of a record -/

/-- The file that a record is saved as. -/
def savedFile (m : Metadata) : Bytes := Utf8.encode (m.toRecord ++ "\n")

theorem length_savedFile (m : Metadata) : (savedFile m).length = Utf8.size m.recordChars + 1 := by
  have hend : Utf8.size "\n".toList = 1 := by decide +kernel
  rw [savedFile, Utf8.encode, Utf8.length_encodeChars, String.toList_append, Metadata.toRecord, String.toList_ofList,
    Utf8.size_append, hend]

theorem read_savedFile {σ : Type} (r : Registry σ) {m : Metadata} (hm : Storable m.name) :
    r.read ((savedFile m).take readLimit) = .ok m.tidy := by
  have hsize := Metadata.size_recordChars_le hm
  have hlimit : readLimit = 256 := rfl
  have hraw : ((savedFile m).take readLimit).isEmpty = false := by
    rw [List.isEmpty_eq_false_iff]
    apply List.ne_nil_of_length_pos
    rw [List.length_take, length_savedFile]
    omega
  have hline : firstLine ((savedFile m).take readLimit) = .ok m.toRecord := by
    unfold savedFile Metadata.toRecord
    exact firstLine_encode (Metadata.not_endsLine_of_mem_recordChars hm.plain) (by omega)
  exact read_of_line hraw hline (Metadata.applyRecord_toRecord r.metadata hm)

/-- The registry once its file was read or written. -/
def withFiles (r : Registry MemoryStore) (files : Files) : Registry MemoryStore :=
  { r with store := { r.store with files, handle := none } }

variable {r : Registry MemoryStore}

/-! ### Reading and saving -/

theorem retrieve_of_missing (hs : r.store.mounted = true) (h : r.store.files.get? r.fileName = none) :
    r.retrieve = (.error (.openFailed r.fileName "arquivo inexistente"), r) := by
  rw [retrieve_eq, MemoryStore.readFile_of_missing hs h]

theorem retrieve_of_get? (hs : r.store.mounted = true) {data : Bytes}
    (h : r.store.files.get? r.fileName = some data) :
    r.retrieve =
      match r.read (data.take readLimit) with
      | .error e => (.error e, r.withFiles r.store.files)
      | .ok m => (.ok m, (r.withFiles r.store.files).adopt m) := by
  rw [retrieve_eq, MemoryStore.readFile_of_get? hs h]
  rfl

theorem retrieve_savedFile (hs : r.store.mounted = true) {m : Metadata} (hm : Storable m.name)
    (hfile : r.store.files.get? r.fileName = some (savedFile m)) :
    r.retrieve = (.ok m.tidy, (r.withFiles r.store.files).adopt m.tidy) := by
  rw [retrieve_of_get? hs hfile, read_savedFile r hm]

theorem retrieve_store (hs : r.store.mounted = true) : ∃ handle, r.retrieve.2.store = { r.store with handle } := by
  cases hfile : r.store.files.get? r.fileName with
  | none => exact ⟨r.store.handle, by rw [retrieve_of_missing hs hfile]⟩
  | some data =>
    refine ⟨none, ?_⟩
    rw [retrieve_of_get? hs hfile]
    split <;> rfl

theorem commit_of_accepted (hs : r.store.mounted = true) (hw : r.store.failWrites = false) {record : String} {n : Nat}
    {m : Metadata} (h : r.metadata.applyRecord record = .ok (n, m)) :
    r.commit record = (.ok (), (r.withFiles (r.store.files.set r.fileName (savedFile m))).adopt m) := by
  unfold commit
  rw [h]
  dsimp only
  rw [MemoryStore.writeFile_ok hs hw]
  rfl

theorem commit_of_accepted_failing (hs : r.store.mounted = true) (hw : r.store.failWrites = true) {record : String}
    {n : Nat} {m : Metadata} (h : r.metadata.applyRecord record = .ok (n, m)) :
    r.commit record = (.error (.io "falha simulada"), r.withFiles (r.store.files.set r.fileName [])) := by
  unfold commit
  rw [h]
  dsimp only
  rw [MemoryStore.writeFile_failed hs hw]
  rfl

theorem commit_of_writable (hs : r.store.mounted = true) (hw : r.store.failWrites = false) {m : Metadata}
    (hm : Storable m.name) :
    r.commit m.toRecord = (.ok (), (r.withFiles (r.store.files.set r.fileName (savedFile m.tidy))).adopt m.tidy) :=
  commit_of_accepted hs hw (Metadata.applyRecord_toRecord r.metadata hm)

theorem commit_of_failing (hs : r.store.mounted = true) (hw : r.store.failWrites = true) {m : Metadata}
    (hm : Storable m.name) :
    r.commit m.toRecord = (.error (.io "falha simulada"), r.withFiles (r.store.files.set r.fileName [])) :=
  commit_of_accepted_failing hs hw (Metadata.applyRecord_toRecord r.metadata hm)

/-! ### Memory and file agree -/

/-- Reading the file again would leave the record that is in memory. -/
structure Settled (r : Registry MemoryStore) : Prop where
  mounted : r.store.mounted = true
  storable : Storable r.metadata.name
  agrees : ∀ {data m}, r.store.files.get? r.fileName = some data → r.read (data.take readLimit) = .ok m →
    m = r.metadata

/-- What a read over the record in memory made of the file, it makes of it again. -/
theorem read_again {r' : Registry MemoryStore} {raw : Bytes} {m : Metadata} (h : r.read raw = .ok m)
    (hm : r'.metadata = m) : r'.read raw = .ok m := by
  obtain ⟨hraw, line, n, hline, hrec⟩ := read_ok h
  refine read_of_line hraw hline (n := n) ?_
  rw [hm]
  exact Metadata.applyRecord_applyRecord hrec

/-- Reading the file of a settled registry changes neither its record nor any file. -/
theorem Settled.retrieve (h : r.Settled) :
    (∃ e handle, r.retrieve = (.error e, { r with store := { r.store with handle } })) ∨
      r.retrieve = (.ok r.metadata, (r.withFiles r.store.files).adopt r.metadata) := by
  cases hfile : r.store.files.get? r.fileName with
  | none => exact Or.inl ⟨_, r.store.handle, retrieve_of_missing h.mounted hfile⟩
  | some data =>
    rw [retrieve_of_get? h.mounted hfile]
    cases hread : r.read (data.take readLimit) with
    | error e => exact Or.inl ⟨e, none, rfl⟩
    | ok m =>
      rw [h.agrees hfile hread]
      exact Or.inr rfl

theorem Settled.of_same {r' : Registry MemoryStore} (h : r.Settled) (hmount : r'.store.mounted = r.store.mounted)
    (hfiles : r'.store.files = r.store.files) (hname : r'.fileName = r.fileName)
    (hmeta : r'.metadata = r.metadata) : r'.Settled where
  mounted := hmount.trans h.mounted
  storable := hmeta ▸ h.storable
  agrees := by
    intro data m hfile hread
    rw [hfiles, hname] at hfile
    rw [read_congr hmeta hname] at hread
    rw [hmeta, h.agrees hfile hread]

theorem Settled.refreshed (h : r.Settled) :
    (r.notify .terminal .refresh).2.store.files = r.store.files ∧
      (r.notify .terminal .refresh).2.metadata = r.metadata ∧
      (r.notify .terminal .refresh).2.fileName = r.fileName := by
  rw [notify_refresh]
  rcases h.retrieve with ⟨e, handle, hr⟩ | hr <;> rw [hr] <;> exact ⟨rfl, rfl, rfl⟩

theorem Settled.afterRetrieve (h : r.Settled) : r.retrieve.2.Settled := by
  rcases h.retrieve with ⟨e, handle, hr⟩ | hr <;> rw [hr]
  · exact h.of_same rfl rfl rfl rfl
  · exact h.of_same rfl rfl rfl rfl

/-- Saving a record keeps memory and file in agreement, also when it fails. -/
theorem Settled.afterCommit {m : Metadata} (hs : r.store.mounted = true) (hr : Storable r.metadata.name)
    (hm : Storable m.name) : (r.commit m.toRecord).2.Settled := by
  cases hw : r.store.failWrites with
  | false =>
    rw [commit_of_writable hs hw hm]
    refine ⟨hs, Metadata.storable_tidy hm, ?_⟩
    intro data m' hfile hread
    change (r.store.files.set r.fileName (savedFile m.tidy)).get? r.fileName = some data at hfile
    rw [Files.get?_set_self] at hfile
    obtain rfl := Option.some.inj hfile
    rw [read_savedFile _ (Metadata.storable_tidy hm)] at hread
    show m' = m.tidy
    rw [← Except.ok.inj hread]
    exact Metadata.tidy_eq_self (Metadata.trim_name_tidy m)
  | true =>
    -- The file was emptied before the write failed, and no record is read from an empty file.
    rw [commit_of_failing hs hw hm]
    refine ⟨hs, hr, ?_⟩
    intro data m' hfile hread
    change (r.store.files.set r.fileName []).get? r.fileName = some data at hfile
    rw [Files.get?_set_self] at hfile
    obtain rfl := Option.some.inj hfile
    exact absurd (read_ok hread).1 (by decide)

theorem settled_of_retrieve (hs : r.store.mounted = true) (hr : Storable r.metadata.name) {m : Metadata}
    {r' : Registry MemoryStore} (h : r.retrieve = (.ok m, r')) : r'.Settled := by
  cases hfile : r.store.files.get? r.fileName with
  | none =>
    rw [retrieve_of_missing hs hfile] at h
    cases h
  | some data =>
    rw [retrieve_of_get? hs hfile] at h
    cases hread : r.read (data.take readLimit) with
    | error e =>
      rw [hread] at h
      cases h
    | ok m' =>
      rw [hread] at h
      obtain ⟨-, rfl⟩ := Prod.mk.inj h
      refine ⟨hs, storable_of_read hr hread, ?_⟩
      intro data' m'' hfile' hread'
      obtain rfl := Option.some.inj (hfile.symm.trans hfile')
      have hagain : ((r.withFiles r.store.files).adopt m').read (data.take readLimit) = .ok m' := read_again hread rfl
      exact Except.ok.inj (hread'.symm.trans hagain)

theorem settled_of_boot (hs : r.store.mounted = true) (hr : Storable r.metadata.name) {m : Metadata}
    {r' : Registry MemoryStore} (h : r.boot = (.ok m, r')) : r'.Settled := by
  obtain ⟨-, hread | ⟨e, store, hread, hc⟩⟩ := boot_ok h
  · exact settled_of_retrieve hs hr hread
  · -- What could not be read changed only the store, and the factory record is saved over it.
    obtain ⟨handle, hstore⟩ := retrieve_store hs
    rw [hread] at hstore
    have hmounted : store.mounted = true := by
      change store = _ at hstore
      rw [hstore]
      exact hs
    have hsettled := Settled.afterCommit (r := { r with store }) hmounted hr Storable.factory
    rwa [hc] at hsettled

theorem settled_of_start {store : MemoryStore} {fileName : String} {m : Metadata} {r : Registry MemoryStore}
    (h : (Registry.ofStore store fileName).start = (.ok m, r)) : r.Settled ∧ r.metadata = m := by
  obtain ⟨mounted, hmount, hboot⟩ := start_ok h
  obtain rfl := MemoryStore.mount_ok hmount
  exact ⟨settled_of_boot rfl Storable.factory hboot, (boot_ok hboot).1⟩

/-! ### A record that was saved -/

/-- The record is in memory, and the file is what it is saved as. -/
structure Holds (r : Registry MemoryStore) (m : Metadata) : Prop where
  settled : r.Settled
  metadata : r.metadata = m
  file : r.store.files.get? r.fileName = some (savedFile m)

theorem Holds.retrieve {m : Metadata} (h : r.Holds m) : r.retrieve.1 = .ok m := by
  obtain ⟨⟨hmounted, hstorable, hagrees⟩, rfl, hfile⟩ := h
  have htidy : r.metadata.tidy = r.metadata := hagrees hfile (read_savedFile r hstorable)
  rw [retrieve_savedFile hmounted hstorable hfile, htidy]

/-- A save that is reported as one puts the record into memory and into the file. -/
theorem holds_of_success (hs : r.store.mounted = true) (hr : Storable r.metadata.name) {m : Metadata}
    (hm : Storable m.name) (htrim : Text.trim m.name.toList = m.name.toList)
    (hok : (r.notify .terminal (.commit m.toRecord)).1.isSuccess = true) :
    (r.notify .terminal (.commit m.toRecord)).2.Holds m := by
  have hsettled := Settled.afterCommit hs hr hm
  rw [notify_commit]
  cases hw : r.store.failWrites with
  | false =>
    rw [commit_of_writable hs hw hm, Metadata.tidy_eq_self htrim] at hsettled ⊢
    refine ⟨hsettled, rfl, ?_⟩
    exact Files.get?_set_self _ _ _
  | true =>
    rw [isSuccess_commit, commit_of_failing hs hw hm] at hok
    cases hok

end Registry
end FieldLogger
