import FieldLogger.Proofs.Registry.Reload
import FieldLogger.Proofs.Registry.Requests
import FieldLogger.Proofs.Terminal.InMemory

/-! Metadata are always well formed (`acts_wellFormed`): those in memory and those being edited, whatever is typed,
    asked for by others, put into the file or made to fail. What a terminal saves is therefore never refused as a
    record, and what is saved is one line that reads back. -/

namespace FieldLogger

/-- Metadata whose record is one line of five fields, which is not too long and read over any other. -/
structure Metadata.WellFormed (m : Metadata) : Prop where
  name_ne : m.name ≠ ""
  name_size : m.name.utf8ByteSize ≤ 95
  name_head : ∀ c, m.name.toList.head? = some c → Text.isBlank c = false
  name_plain : ∀ c ∈ m.name.toList, c ≠ ';' ∧ c ≠ '\n' ∧ c ≠ '\x00'
  line : ∀ c ∈ m.toRecord.toList, c ≠ '\n' ∧ c ≠ '\x00'
  fields : (Text.splitAt ';' m.toRecord.toList).length = 5
  size : m.toRecord.utf8ByteSize ≤ 130
  accepted : ∀ base : Metadata, ∃ m', base.applyRecord m.toRecord = .ok (5, m')

theorem Storable.wellFormed {m : Metadata} (h : Storable m.name) : m.WellFormed := by
  obtain ⟨c, hc, hblank⟩ := h.head
  refine ⟨?_, ?_, ?_, fun c hc => ⟨(h.plain c hc).1, not_or.mp (h.plain c hc).2⟩, ?_, ?_, ?_, ?_⟩
  · rintro hname
    rw [hname, String.toList_empty] at hc
    cases hc
  · have hsize := h.size
    rwa [← Utf8.utf8ByteSize_ofList, String.ofList_toList] at hsize
  · intro c' hc'
    rw [hc] at hc'
    obtain rfl := Option.some.inj hc'
    exact hblank
  · intro c hc
    rw [Metadata.toRecord, String.toList_ofList] at hc
    exact not_or.mp (Metadata.not_endsLine_of_mem_recordChars h.plain c hc)
  · rw [Metadata.toRecord, String.toList_ofList, Metadata.splitAt_recordChars h.plain]
    rfl
  · rw [Metadata.toRecord, Utf8.utf8ByteSize_ofList]
    exact Metadata.size_recordChars_le h
  · exact fun base => ⟨m.tidy, base.applyRecord_toRecord h⟩

namespace Registry

/-! ### Registries -/

theorem Sound.use {σ : Type} [ByteStore σ] {fileName : String} {r : Registry σ} (h : r.Sound fileName) (u : Use σ) :
    (r.use u).Sound fileName := by
  cases u with
  | takeChanged => exact ⟨h.file, h.storable⟩
  | outside store => exact h.withStore store
  | request q =>
    cases q <;> dsimp only [Registry.use, request]
    · exact h.boot
    · exact h.retrieve
    · exact h.commit _
    · exact h.notify _ _

/-- The file holds the record in memory, as one line. -/
structure Stored (fileName : String) (r : Registry MemoryStore) : Prop where
  wellFormed : r.metadata.WellFormed
  file : r.store.files.get? fileName = some (Utf8.encode (r.metadata.toRecord ++ "\n"))

variable {fileName : String} {r r' : Registry MemoryStore}

theorem stored_of_commit (h : r.Sound fileName) {record : String} (hcommit : r.commit record = (.ok (), r')) :
    Stored fileName r' := by
  have hsound := h.commit record
  rw [hcommit] at hsound
  obtain ⟨-, n, m, -, rfl⟩ := commit_eq_ok hcommit
  refine ⟨hsound.storable.wellFormed, ?_⟩
  rw [← hsound.file]
  exact Files.get?_set_self _ _ _

/-- A boot that can read no record stores one. -/
theorem stored_of_boot (h : r.Sound fileName) {m : Metadata} (hboot : r.boot = (.ok m, r')) {e : StorageError}
    (hread : r.retrieve.1 = .error e) : Stored fileName r' := by
  obtain ⟨-, hread' | ⟨e', store, -, hcommit⟩⟩ := boot_ok hboot
  · rw [hread'] at hread
    cases hread
  · exact stored_of_commit (h.withStore store) hcommit

/-- A record that was made of metadata is not refused, though it may not be written. -/
theorem commit_toRecord_ne_record (r : Registry MemoryStore) {m : Metadata} (hm : Storable m.name) (e : RecordError) :
    (r.commit m.toRecord).1 ≠ .error (.record e) := by
  rcases Bool.eq_false_or_eq_true r.store.mounted with hs | hs
  · rcases Bool.eq_false_or_eq_true r.store.failWrites with hw | hw
    · rw [commit_of_failing hs hw hm]
      nofun
    · rw [commit_of_writable hs hw hm]
      nofun
  · unfold commit
    rw [Metadata.applyRecord_toRecord r.metadata hm]
    dsimp only
    rw [MemoryStore.writeFile_unmounted hs]
    nofun

end Registry

namespace Session

/-! ### Sessions -/

section
variable {σ : Type} [ByteStore σ]

/-- A session over the registry of a file, in which the names in memory and in the edited copy can be stored. -/
structure Sound (fileName : String) (s : Session (Registry σ)) : Prop where
  mediator : s.mediator.Sound fileName
  staged : Storable s.terminal.staged.name

/-- Something that happens to a session or its registry. -/
inductive Act (σ : Type) where
  | init (screen : ScreenName)
  | handle (signal : Signal) (payload : Option String)
  /-- Someone else asks the registry, takes its mark or changes the store. -/
  | use (u : Registry.Use σ)

def act (s : Session (Registry σ)) : Act σ → Session (Registry σ)
  | .init screen => s.init screen
  | .handle signal payload => (s.handle signal payload).2
  | .use u => { s with mediator := s.mediator.use u }

/-- The session after a run of acts. -/
def acts (s : Session (Registry σ)) (as : List (Act σ)) : Session (Registry σ) := as.foldl act s

variable {fileName : String} {s : Session (Registry σ)}

theorem storable_reread {r : Registry σ} (h : r.Sound fileName) {m : Metadata} (hm : reread? r = some m) :
    Storable m.name := by
  have hread : r.retrieve = (.ok m, r.retrieve.2) := Prod.ext (Registry.refreshed_iff.mp (reread?_eq_some.mp hm)) rfl
  obtain ⟨_, _, -, -, hr⟩ := Registry.retrieve_ok hread
  have hsound := h.retrieve.storable
  rw [hr] at hsound
  exact hsound

theorem Sound.handle (h : s.Sound fileName) (signal : Signal) (payload : Option String) :
    (s.handle signal payload).2.Sound fileName := by
  refine ⟨?_, storable_handle signal payload h.staged fun m => storable_reread h.mediator⟩
  rw [handle_mediator]
  cases s.request signal with
  | none => exact h.mediator
  | some notice => exact h.mediator.notify .terminal notice

theorem Sound.act (h : s.Sound fileName) (a : Act σ) : (s.act a).Sound fileName := by
  cases a with
  | init screen => exact ⟨h.mediator, h.staged⟩
  | handle signal payload => exact h.handle signal payload
  | use u => exact ⟨h.mediator.use u, h.staged⟩

theorem Sound.acts (h : s.Sound fileName) (as : List (Act σ)) : (s.acts as).Sound fileName := by
  induction as generalizing s with
  | nil => exact h
  | cons a as ih => exact ih (h.act a)

end

/-- A session that starts from what a registry has booted with keeps well-formed metadata in memory and in its edited
    copy. A save is never refused as no record, and each record that is stored, the one of a boot that could read none
    included, is a line of its file. -/
theorem acts_wellFormed {store : MemoryStore} {fileName : String} {m : Metadata} {r : Registry MemoryStore}
    (h : (Registry.ofStore store fileName).start = (.ok m, r)) (clock : Clock) (as : List (Act MemoryStore)) :
    let t : Session (Registry MemoryStore) := acts ⟨.ofMetadata m, clock, r⟩ as
    (t.mediator.metadata.WellFormed ∧ t.terminal.staged.WellFormed) ∧
    (∀ e, (t.ask (.commit t.terminal.staged.toRecord)).1 ≠ .failed (.record e)) ∧
    (∀ record r', t.mediator.commit record = (.ok (), r') → r'.Stored fileName) ∧
    (∀ m' r' e, t.mediator.boot = (.ok m', r') → t.mediator.retrieve.1 = .error e → r'.Stored fileName) ∧
    (∀ e, (Registry.ofStore store fileName).mount.2.retrieve.1 = .error e → r.Stored fileName) := by
  obtain ⟨mounted, hmount, hboot⟩ := Registry.start_ok h
  have hstart : Registry.Sound fileName { Registry.ofStore store fileName with store := mounted } :=
    ⟨rfl, Storable.factory⟩
  have hbooted : r.Sound fileName := by
    have hsound := hstart.boot
    rwa [hboot] at hsound
  have hmeta : r.metadata = m := (Registry.boot_ok hboot).1
  intro t
  have ht : t.Sound fileName := Sound.acts ⟨hbooted, hmeta ▸ hbooted.storable⟩ as
  clear_value t
  refine ⟨⟨ht.mediator.storable.wellFormed, ht.staged.wellFormed⟩, ?_, ?_, ?_, ?_⟩
  · intro e
    rw [ask_eq]
    dsimp only
    rw [mediator_notify]
    exact fun hfailed => t.mediator.commit_toRecord_ne_record ht.staged e (Registry.failed_iff.mp hfailed)
  · intro record r' hcommit
    exact Registry.stored_of_commit ht.mediator hcommit
  · intro m' r' e hboot' hread
    exact Registry.stored_of_boot ht.mediator hboot' hread
  · intro e hread
    have hmounted : (Registry.ofStore store fileName).mount.2 =
        { Registry.ofStore store fileName with store := mounted } := by
      unfold Registry.mount
      rw [hmount]
    rw [hmounted] at hread
    exact Registry.stored_of_boot hstart hboot hread

/-- A device boots over a file that is no text. Its name is edited, a longer one is put into the file and read, and
    then a text of separators is handed over while nothing can be written. -/
theorem acts_wellFormed_bench :
    ∃ m r, (Registry.ofStore (MemoryStore.withFile "metadata.txt" [0xFF]) "metadata.txt").start = (.ok m, r) ∧
      let clock : Clock := ⟨⟨2024, 5, 17, by decide⟩, ⟨12, 30, 0, by decide⟩⟩
      let long := Utf8.encode (String.ofList (' ' :: List.replicate 48 'é'))
      let other : MemoryStore := { MemoryStore.withFile "metadata.txt" long with mounted := true }
      let as : List (Act MemoryStore) :=
        [.handle (.key .config) none, .handle (.key (.edit .name)) none, .handle .enter (some "st 1"),
          .use (.outside other), .use (.request .retrieve), .use (.outside { other with failWrites := true }),
          .use (.request (.notify .terminal (.commit ";;;")))]
      let t : Session (Registry MemoryStore) := acts ⟨.ofMetadata m, clock, r⟩ as
      t.terminal.staged.name = "st 1" ∧ t.mediator.metadata.name.utf8ByteSize = 94 ∧
      (t.mediator.metadata.WellFormed ∧ t.terminal.staged.WellFormed) ∧
      (∀ e, (t.ask (.commit t.terminal.staged.toRecord)).1 ≠ .failed (.record e)) ∧ r.Stored "metadata.txt" := by
  have hstart : (Registry.ofStore (MemoryStore.withFile "metadata.txt" [0xFF]) "metadata.txt").start.1 =
      .ok Metadata.factory := by decide +kernel
  refine ⟨_, _, Prod.ext hstart rfl, ?_⟩
  intro clock long other as t
  obtain ⟨hwell, hsave, -, -, hboot⟩ := acts_wellFormed (Prod.ext hstart rfl) clock as
  exact ⟨by decide +kernel, by decide +kernel, hwell, hsave, hboot .encoding (by decide +kernel)⟩

end Session
end FieldLogger
