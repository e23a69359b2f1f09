import FieldLogger.Proofs.Metadata.RoundTrip

/-! What the operations of a registry do to the record in memory, over any store. One that fails changes the store at
    most and one that succeeds announces a change (`Served`), so that the record is as it was or its change is
    announced (`Announces`). Whatever a registry was used for, the name in its memory can be stored. -/

namespace FieldLogger
namespace Registry
variable {σ : Type}

/-! ### Success and failure -/

/-- What is left of a registry by a request that succeeded or failed: success is announced as a change, failure
    touches the store at most. -/
inductive Served (r : Registry σ) : Bool → Registry σ → Prop where
  | succeeded {r' : Registry σ} (announced : r'.changed = true) : Served r true r'
  | failed (store : σ) : Served r false { r with store }

theorem Served.of_answer {r : Registry σ} {α : Type} {answer : Except StorageError α × Registry σ}
    (hok : ∀ {a r'}, answer = (.ok a, r') → r'.changed = true)
    (herror : ∀ {e r'}, answer = (.error e, r') → ∃ store, r' = { r with store }) :
    Served r answer.1.isOk answer.2 := by
  obtain ⟨result, r'⟩ := answer
  cases result with
  | ok a => exact .succeeded (hok rfl)
  | error e =>
    obtain ⟨store, rfl⟩ := herror rfl
    exact .failed store

theorem Served.store_of_failed {r r' : Registry σ} {ok : Bool} (h : Served r ok r') (hok : ¬ok = true) :
    ∃ store, r' = { r with store } := by
  cases h with
  | succeeded _ => exact absurd rfl hok
  | failed store => exact ⟨store, rfl⟩

theorem Served.changed_of_succeeded {r r' : Registry σ} {ok : Bool} (h : Served r ok r') (hok : ok = true) :
    r'.changed = true := by
  cases h with
  | succeeded announced => exact announced
  | failed store => cases hok

/-- The record is as it was, or its change is announced. -/
def Announces (r r' : Registry σ) : Prop :=
  r'.changed = true ∨ r'.metadata = r.metadata ∧ r'.changed = r.changed

theorem Served.announces {r r' : Registry σ} {ok : Bool} (h : Served r ok r') : Announces r r' := by
  cases h with
  | succeeded announced => exact Or.inl announced
  | failed store => exact Or.inr ⟨rfl, rfl⟩

theorem Announces.trans {r r' r'' : Registry σ} (h : Announces r r') (h' : Announces r' r'') : Announces r r'' := by
  rcases h' with hchanged | ⟨hmeta, hsame⟩
  · exact Or.inl hchanged
  · rcases h with hchanged | ⟨hmeta', hsame'⟩
    · exact Or.inl (hsame.trans hchanged)
    · exact Or.inr ⟨hmeta.trans hmeta', hsame.trans hsame'⟩

/-! ### Operations -/

theorem read_ok {r : Registry σ} {raw : Bytes} {m : Metadata} (h : r.read raw = .ok m) :
    raw.isEmpty = false ∧ ∃ line n, firstLine raw = .ok line ∧ r.metadata.applyRecord line = .ok (n, m) := by
  unfold read at h
  split at h
  · cases h
  · rename_i hraw
    refine ⟨Bool.eq_false_iff.mpr hraw, ?_⟩
    cases hline : firstLine raw with
    | error e =>
      rw [hline] at h
      cases h
    | ok line =>
      rw [hline] at h
      dsimp only [Except.bind] at h
      split at h
      · rename_i n m' hrec
        cases h
        exact ⟨line, n, rfl, hrec⟩
      · cases h

theorem read_congr {r r' : Registry σ} (hmeta : r'.metadata = r.metadata) (hname : r'.fileName = r.fileName)
    (raw : Bytes) : r'.read raw = r.read raw := by
  unfold read
  rw [hmeta, hname]

theorem read_withStore (r : Registry σ) (store : σ) (raw : Bytes) : { r with store }.read raw = r.read raw := by
  apply read_congr
  · rfl
  · rfl

theorem read_of_line {r : Registry σ} {raw : Bytes} {m : Metadata} {line : String} {n : Nat}
    (hraw : raw.isEmpty = false) (hline : firstLine raw = .ok line) (hrec : r.metadata.applyRecord line = .ok (n, m)) :
    r.read raw = .ok m := by
  unfold read
  rw [hraw, if_neg (by decide), hline]
  dsimp only [Except.bind]
  rw [hrec]

theorem storable_of_read {r : Registry σ} {raw : Bytes} {m : Metadata} (hr : Storable r.metadata.name)
    (h : r.read raw = .ok m) : Storable m.name := by
  obtain ⟨-, line, n, -, hrec⟩ := read_ok h
  exact Metadata.storable_of_applyRecord hr hrec

/-- The registry of a file, with a name in memory that can be stored. -/
structure Sound (fileName : String) (r : Registry σ) : Prop where
  file : r.fileName = fileName
  storable : Storable r.metadata.name

theorem Sound.withStore {fileName : String} {r : Registry σ} (h : r.Sound fileName) (store : σ) :
    Sound fileName { r with store } := ⟨h.file, h.storable⟩

variable [ByteStore σ]

theorem retrieve_eq (r : Registry σ) :
    r.retrieve =
      match ByteStore.readFile r.store r.fileName readLimit with
      | (.error e, store) => (.error e, { r with store })
      | (.ok data, store) =>
        match r.read data with
        | .error e => (.error e, { r with store })
        | .ok m => (.ok m, { r with store, metadata := m, changed := true }) := by
  unfold retrieve
  cases ByteStore.readFile r.store r.fileName readLimit with
  | mk data store =>
    cases data with
    | error e => rfl
    | ok data =>
      dsimp only [Except.bind]
      rw [read_withStore r store data]
      rfl

theorem retrieve_ok {r r' : Registry σ} {m : Metadata} (h : r.retrieve = (.ok m, r')) :
    ∃ data store, ByteStore.readFile r.store r.fileName readLimit = (.ok data, store) ∧ r.read data = .ok m ∧
      r' = { r with store, metadata := m, changed := true } := by
  rw [retrieve_eq] at h
  split at h
  · cases h
  · rename_i data store hfile
    split at h
    · cases h
    · rename_i m' hread
      obtain ⟨hm, rfl⟩ := Prod.mk.inj h
      obtain rfl := Except.ok.inj hm
      exact ⟨data, store, hfile, hread, rfl⟩

theorem retrieve_error {r r' : Registry σ} {e : StorageError} (h : r.retrieve = (.error e, r')) :
    ∃ store, r' = { r with store } := by
  rw [retrieve_eq] at h
  split at h
  · exact ⟨_, (Prod.mk.inj h).2.symm⟩
  · split at h
    · exact ⟨_, (Prod.mk.inj h).2.symm⟩
    · cases h

theorem commit_ok {r r' : Registry σ} {record : String} (h : r.commit record = (.ok (), r')) :
    ∃ n m store, r.metadata.applyRecord record = .ok (n, m) ∧
      r' = { r with store, metadata := m, changed := true } := by
  unfold commit at h
  split at h
  · cases h
  · rename_i n m hrec
    dsimp only at h
    split at h <;> cases h
    exact ⟨n, m, _, hrec, rfl⟩

theorem commit_error {r r' : Registry σ} {record : String} {e : StorageError} (h : r.commit record = (.error e, r')) :
    ∃ store, r' = { r with store } := by
  unfold commit at h
  split at h
  · cases h
    exact ⟨r.store, rfl⟩
  · dsimp only at h
    split at h <;> cases h
    exact ⟨_, rfl⟩

theorem commit_of_refused {r : Registry σ} {record : String} {e : RecordError}
    (h : r.metadata.applyRecord record = .error e) : r.commit record = (.error (.record e), r) := by
  unfold commit
  rw [h]

theorem start_ok {r r' : Registry σ} {m : Metadata} (h : r.start = (.ok m, r')) :
    ∃ store, ByteStore.mount r.store = (.ok (), store) ∧ { r with store }.boot = (.ok m, r') := by
  unfold start at h
  split at h
  · cases h
  · rename_i hmount
    obtain ⟨hresult, rfl⟩ := Prod.mk.inj hmount
    exact ⟨(ByteStore.mount r.store).2, Prod.ext hresult rfl, h⟩

theorem boot_of_retrieve {r r' : Registry σ} {m : Metadata} (h : r.retrieve = (.ok m, r')) : r.boot = (.ok m, r') := by
  unfold boot
  rw [h]

theorem boot_of_unreadable {r r' : Registry σ} {e : StorageError} (h : r.retrieve = (.error e, r')) :
    r.boot = ((r'.commit Metadata.factory.toRecord).1.map fun _ => (r'.commit Metadata.factory.toRecord).2.metadata,
      (r'.commit Metadata.factory.toRecord).2) := by
  unfold boot
  rw [h]

theorem boot_ok {r r' : Registry σ} {m : Metadata} (h : r.boot = (.ok m, r')) :
    r'.metadata = m ∧
      (r.retrieve = (.ok m, r') ∨
        ∃ e store, r.retrieve = (.error e, { r with store }) ∧
          { r with store }.commit Metadata.factory.toRecord = (.ok (), r')) := by
  cases hread : r.retrieve with
  | mk result r1 =>
    cases result with
    | ok m1 =>
      rw [boot_of_retrieve hread] at h
      obtain ⟨hm, rfl⟩ := Prod.mk.inj h
      obtain rfl := Except.ok.inj hm
      obtain ⟨-, -, -, -, rfl⟩ := retrieve_ok hread
      exact ⟨rfl, Or.inl rfl⟩
    | error e =>
      obtain ⟨store, rfl⟩ := retrieve_error hread
      rw [boot_of_unreadable hread] at h
      obtain ⟨hresult, rfl⟩ := Prod.mk.inj h
      cases hc : commit { r with store } Metadata.factory.toRecord with
      | mk written r2 =>
        rw [hc] at hresult
        cases written with
        | error e2 => cases hresult
        | ok u => exact ⟨Except.ok.inj hresult, Or.inr ⟨e, store, rfl, hc⟩⟩

theorem boot_error {r r' : Registry σ} {e : StorageError} (h : r.boot = (.error e, r')) :
    ∃ store, r' = { r with store } := by
  cases hread : r.retrieve with
  | mk result r1 =>
    cases result with
    | ok m =>
      rw [boot_of_retrieve hread] at h
      cases h
    | error e1 =>
      obtain ⟨store, rfl⟩ := retrieve_error hread
      rw [boot_of_unreadable hread] at h
      obtain ⟨hresult, rfl⟩ := Prod.mk.inj h
      cases hc : commit { r with store } Metadata.factory.toRecord with
      | mk written r2 =>
        rw [hc] at hresult
        cases written with
        | ok u => cases hresult
        | error e2 =>
          obtain ⟨store', hstore⟩ := commit_error hc
          exact ⟨store', hstore⟩

/-! ### Answers to the terminal -/

theorem notify_refresh (r : Registry σ) : (r.notify .terminal .refresh).2 = r.retrieve.2 := by
  unfold notify
  dsimp only
  split <;> rename_i h <;> rw [h]

theorem refreshed_iff {r : Registry σ} {m : Metadata} :
    (r.notify .terminal .refresh).1 = .refreshed m ↔ r.retrieve.1 = .ok m := by
  unfold notify
  dsimp only
  split <;> rename_i h <;> rw [h] <;> simp

theorem notify_commit (r : Registry σ) (record : String) :
    (r.notify .terminal (.commit record)).2 = (r.commit record).2 := by
  unfold notify
  dsimp only
  split <;> rename_i h <;> rw [h]

theorem failed_iff {r : Registry σ} {record : String} {e : StorageError} :
    (r.notify .terminal (.commit record)).1 = .failed e ↔ (r.commit record).1 = .error e := by
  unfold notify
  dsimp only
  split <;> rename_i h <;> rw [h] <;> simp

theorem isSuccess_refresh (r : Registry σ) : (r.notify .terminal .refresh).1.isSuccess = r.retrieve.1.isOk := by
  unfold notify
  dsimp only
  split <;> rename_i h <;> rw [h] <;> rfl

theorem isSuccess_commit (r : Registry σ) (record : String) :
    (r.notify .terminal (.commit record)).1.isSuccess = (r.commit record).1.isOk := by
  unfold notify
  dsimp only
  split <;> rename_i h <;> rw [h] <;> rfl

/-! ### Every request -/

theorem served_retrieve (r : Registry σ) : Served r r.retrieve.1.isOk r.retrieve.2 := by
  refine .of_answer (fun h => ?_) retrieve_error
  obtain ⟨-, -, -, -, rfl⟩ := retrieve_ok h
  rfl

theorem served_commit (r : Registry σ) (record : String) :
    Served r (r.commit record).1.isOk (r.commit record).2 := by
  refine .of_answer (fun h => ?_) commit_error
  obtain ⟨-, -, -, -, rfl⟩ := commit_ok h
  rfl

theorem served_boot (r : Registry σ) : Served r r.boot.1.isOk r.boot.2 := by
  refine .of_answer (fun h => ?_) boot_error
  rcases boot_ok h with ⟨-, hread | ⟨_, _, -, hwritten⟩⟩
  · obtain ⟨-, -, -, -, rfl⟩ := retrieve_ok hread
    rfl
  · obtain ⟨-, -, -, -, rfl⟩ := commit_ok hwritten
    rfl

theorem served_notify (r : Registry σ) (c : Component) (n : Notice) :
    Served r (r.notify c n).1.isSuccess (r.notify c n).2 := by
  cases c with
  | internalStorage => exact .failed r.store
  | terminal =>
    cases n with
    | refresh =>
      rw [isSuccess_refresh, notify_refresh]
      exact served_retrieve r
    | commit record =>
      rw [isSuccess_commit, notify_commit]
      exact served_commit r record

/-! ### Names in memory -/

section
variable {fileName : String} {r : Registry σ}

theorem Sound.retrieve (h : r.Sound fileName) : r.retrieve.2.Sound fileName := by
  cases hr : r.retrieve with
  | mk result r' =>
    cases result with
    | error e =>
      obtain ⟨store, rfl⟩ := retrieve_error hr
      exact h.withStore store
    | ok m =>
      obtain ⟨data, store, -, hread, rfl⟩ := retrieve_ok hr
      exact ⟨h.file, storable_of_read h.storable hread⟩

theorem Sound.commit (h : r.Sound fileName) (record : String) : (r.commit record).2.Sound fileName := by
  cases hr : r.commit record with
  | mk result r' =>
    cases result with
    | error e =>
      obtain ⟨store, rfl⟩ := commit_error hr
      exact h.withStore store
    | ok u =>
      obtain ⟨n, m, store, hrec, rfl⟩ := commit_ok hr
      exact ⟨h.file, Metadata.storable_of_applyRecord h.storable hrec⟩

theorem Sound.boot (h : r.Sound fileName) : r.boot.2.Sound fileName := by
  have hread := h.retrieve
  cases hr : r.retrieve with
  | mk result r' =>
    rw [hr] at hread
    cases result with
    | error e =>
      rw [boot_of_unreadable hr]
      dsimp only at hread ⊢
      exact hread.commit Metadata.factory.toRecord
    | ok m =>
      rw [boot_of_retrieve hr]
      exact hread

theorem Sound.notify (h : r.Sound fileName) (c : Component) (n : Notice) : (r.notify c n).2.Sound fileName := by
  cases c with
  | internalStorage => exact h
  | terminal =>
    cases n with
    | refresh =>
      rw [notify_refresh]
      exact h.retrieve
    | commit record =>
      rw [notify_commit]
      exact h.commit record

end

/-- Some use of a registry leads to this state. Mounting only changes the store, which may also change from
    outside; booting and answering the terminal are made of the operations here. -/
inductive Reached : Registry σ → Prop where
  | ofStore (store : σ) (fileName : String) : Reached (.ofStore store fileName)
  | withStore {r : Registry σ} (store : σ) : Reached r → Reached { r with store }
  | retrieve {r : Registry σ} : Reached r → Reached r.retrieve.2
  | commit {r : Registry σ} (record : String) : Reached r → Reached (r.commit record).2
  | takeChanged {r : Registry σ} : Reached r → Reached r.takeChanged.2

theorem Reached.storable {r : Registry σ} (h : r.Reached) : Storable r.metadata.name := by
  induction h with
  | ofStore store fileName => exact Storable.factory
  | withStore store _ ih => exact ih
  | @retrieve r _ ih => exact (Sound.retrieve ⟨rfl, ih⟩).storable
  | @commit r record _ ih => exact (Sound.commit ⟨rfl, ih⟩ record).storable
  | takeChanged _ ih => exact ih

end Registry
end FieldLogger
