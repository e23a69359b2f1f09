import FieldLogger.Proofs.Station.Delivery

/-! Files of measurements only grow, whatever fails (`flush_append_only`). A flush adds the record that waits to one
    file, or leaves the contents of every file and creates at most an empty one. In a run of measurements and
    flushes the files grow by some of the records that were told, each once and in order. -/

namespace FieldLogger

namespace Files

/-- What a failed attempt to add to a file leaves: the files as they were, or an empty one where there was none. -/
inductive Unwritten (fs : Files) (path : String) : Files → Prop where
  | untouched : Unwritten fs path fs
  | created (missing : fs.get? path = none) : Unwritten fs path (fs.set path [])

theorem Unwritten.get? {fs fs' : Files} {path : String} (h : Unwritten fs path fs') (p : String) :
    fs'.get? p = fs.get? p ∨ p = path ∧ fs.get? p = none ∧ fs'.get? p = some [] := by
  cases h with
  | untouched => exact Or.inl rfl
  | created missing =>
    by_cases hp : p = path
    · subst hp
      exact Or.inr ⟨rfl, missing, get?_set_self fs p []⟩
    · exact Or.inl (get?_set_of_ne hp fs [])

theorem Unwritten.getD_get? {fs fs' : Files} {path : String} (h : Unwritten fs path fs') (p : String) :
    (fs'.get? p).getD [] = (fs.get? p).getD [] := by
  rcases h.get? p with hsame | ⟨-, hnone, hempty⟩
  · rw [hsame]
  · rw [hnone, hempty, Option.getD_some, Option.getD_none]

end Files

theorem Measured.bytesFor_append (path : String) (ms ms' : List Measured) :
    Measured.bytesFor path (ms ++ ms') = Measured.bytesFor path ms ++ Measured.bytesFor path ms' := by
  simp [bytesFor]

/-! ### The store -/

namespace MemoryStore

theorem writeFile_append_failed {s : MemoryStore} {path : String} (hs : s.mounted = true) (hw : s.failWrites = true)
    {old : Bytes} (h : s.files.get? path = some old) (data : Bytes) :
    ByteStore.writeFile s path .append data = (.error (.io "falha simulada"), { s with handle := none }) := by
  unfold ByteStore.writeFile
  rw [openFile_existing hs (by decide) h]
  simp only [ByteStore.write, ByteStore.close, write, close, hw]
  rfl

theorem append_cases (s : MemoryStore) (path : String) (data : Bytes) :
    (∃ n handle, FileLogger.append s path data = (.ok n, { s with files := s.files.append path data, handle })) ∨
      ∃ e files handle, FileLogger.append s path data = (.error e, { s with files, handle }) ∧
        s.files.Unwritten path files := by
  rcases Bool.eq_false_or_eq_true s.mounted with hs | hs
  · rcases Bool.eq_false_or_eq_true s.failWrites with hw | hw
    · right
      unfold FileLogger.append
      cases h : s.files.get? path with
      | none =>
        -- Only a file that does not exist is opened anew, so the write that fails has emptied nothing.
        rw [writeFile_append_of_missing hs h]
        exact ⟨_, _, none, writeFile_failed hs hw path data, .created h⟩
      | some old =>
        rw [writeFile_append_failed hs hw h]
        exact ⟨_, s.files, none, rfl, .untouched⟩
    · exact Or.inl ⟨data.length, none, append_ok hs hw path data⟩
  · right
    unfold FileLogger.append
    rw [writeFile_unmounted hs]
    exact ⟨.notMounted, s.files, s.handle, rfl, .untouched⟩

end MemoryStore

/-! ### One flush -/

namespace FileLogger

/-- The three ways in which a flush ends. -/
inductive Flushed (l : FileLogger MemoryStore) (date : Date) :
    Except StorageError (Option String) → FileLogger MemoryStore → Prop where
  /-- No record waited. -/
  | idle (nothing : l.slot.pending = none) : Flushed l date (.ok none) l
  | kept {record : String} (pending : l.slot.pending = some record) (handle : Option MemoryHandle) :
      Flushed l date (.ok (some (l.fileName date))) { l with
        store := { l.store with files := l.store.files.append (l.fileName date) (Utf8.encode record), handle }
        slot := .empty }
  /-- The record that waited could not be added and is lost. -/
  | dropped {record : String} (pending : l.slot.pending = some record) (e : StorageError) {files : Files}
      (unwritten : l.store.files.Unwritten (l.fileName date) files) (handle : Option MemoryHandle) :
      Flushed l date (.error e) { l with store := { l.store with files, handle }, slot := .empty }

theorem flush_of_pending {l : FileLogger MemoryStore} {record : String} (h : l.slot.pending = some record)
    (date : Date) :
    l.flush date =
      ((append l.store (l.fileName date) (Utf8.encode record)).1.map fun _ => some (l.fileName date),
        { l with store := (append l.store (l.fileName date) (Utf8.encode record)).2, slot := .empty }) := by
  unfold flush Slot.take
  rw [h]

theorem flushed (l : FileLogger MemoryStore) (date : Date) : Flushed l date (l.flush date).1 (l.flush date).2 := by
  cases h : l.slot.pending with
  | none =>
    have hidle : l.flush date = (.ok none, l) := by
      unfold flush Slot.take
      rw [h]
    rw [hidle]
    exact .idle h
  | some record =>
    rw [flush_of_pending h]
    rcases l.store.append_cases (l.fileName date) (Utf8.encode record) with
      ⟨n, handle, happend⟩ | ⟨e, files, handle, happend, hfiles⟩ <;> rw [happend]
    · exact .kept h handle
    · exact .dropped h e hfiles handle

/-- The measurement that a flush with that answer has added to a file, if it has. -/
def added? (l : FileLogger MemoryStore) (result : Except StorageError (Option String)) : Option Measured :=
  match result, l.slot.pending with
  | .ok (some file), some record => some ⟨file, record⟩
  | _, _ => none

namespace Flushed

variable {l l' : FileLogger MemoryStore} {date : Date} {result : Except StorageError (Option String)}

theorem slot (h : Flushed l date result l') : l'.slot = .empty := by
  cases h with
  | idle nothing => exact congrArg Slot.mk nothing
  | kept _ _ => rfl
  | dropped _ _ _ _ => rfl

theorem extended (h : Flushed l date result l') {path : String} {bytes : Bytes}
    (hfile : l.store.files.get? path = some bytes) : ∃ more, l'.store.files.get? path = some (bytes ++ more) := by
  have same : l'.store.files.get? path = l.store.files.get? path →
      ∃ more, l'.store.files.get? path = some (bytes ++ more) := fun hsame =>
    ⟨[], by rw [hsame, hfile, List.append_nil]⟩
  cases h with
  | idle _ => exact same rfl
  | @kept record _ _ =>
    have hkept := l.store.files.get?_keep ⟨l.fileName date, record⟩ path
    by_cases hpath : path = l.fileName date
    · refine ⟨Utf8.encode record, hkept.trans ?_⟩
      rw [if_pos hpath, hfile, Option.getD_some]
    · exact same (hkept.trans (if_neg hpath))
  | dropped _ _ unwritten _ =>
    rcases unwritten.get? path with hsame | ⟨-, hnone, -⟩
    · exact same hsame
    · rw [hfile] at hnone
      cases hnone

/-- The file that is named got the record that waited, and no other file changed. -/
theorem of_path {path : String} (h : Flushed l date (.ok (some path)) l') :
    path = l.fileName date ∧ ∃ record, l.slot.pending = some record ∧
      l'.store.files.get? path = some ((l.store.files.get? path).getD [] ++ Utf8.encode record) ∧
      ∀ p ≠ path, l'.store.files.get? p = l.store.files.get? p := by
  cases h with
  | @kept record pending _ =>
    have hkept := l.store.files.get?_keep ⟨l.fileName date, record⟩
    exact ⟨rfl, record, pending, (hkept _).trans (if_pos rfl), fun p hp => (hkept p).trans (if_neg hp)⟩

theorem eq_none_iff (h : Flushed l date result l') : result = .ok none ↔ l.slot.pending = none := by
  cases h with
  | idle nothing => simp [nothing]
  | kept pending _ => simp [pending]
  | dropped pending _ _ _ => simp [pending]

theorem of_none (h : Flushed l date (.ok none) l') : l' = l := by
  cases h with
  | idle _ => rfl

theorem of_error {e : StorageError} (h : Flushed l date (.error e) l') :
    l.store.files.Unwritten (l.fileName date) l'.store.files := by
  cases h with
  | dropped _ _ unwritten _ => exact unwritten

theorem pending_of_added (h : Flushed l date result l') {m : Measured} (hm : l.added? result = some m) :
    l.slot.pending = some m.record := by
  unfold added? at hm
  cases h with
  | idle _ => simp at hm
  | kept pending _ =>
    rw [pending] at hm ⊢
    cases hm
    rfl
  | dropped _ _ _ _ => simp at hm

theorem getD_files (h : Flushed l date result l') (path : String) :
    (l'.store.files.get? path).getD [] =
      (l.store.files.get? path).getD [] ++ Measured.bytesFor path (l.added? result).toList := by
  unfold added?
  cases h with
  | idle nothing =>
    rw [nothing]
    exact (List.append_nil _).symm
  | @kept record pending _ =>
    rw [pending]
    exact Files.getD_foldl_keep [⟨l.fileName date, record⟩] l.store.files path
  | dropped pending _ unwritten _ =>
    rw [pending, unwritten.getD_get? path]
    exact (List.append_nil _).symm

end Flushed
end FileLogger

/-! ### Runs -/

/-- A logger in memory with the pipeline that tells it of measurements, once or more often, and the clock of both. -/
structure Logging where
  logger : FileLogger MemoryStore
  pipeline : Pipeline Unit
  clock : Clock
  deriving DecidableEq, Repr

namespace Logging

/-- Something that happens to a logger. -/
inductive Event where
  /-- A measurement of what the sensors answer. -/
  | cycle (air : Sample)
  | flush
  | mount
  | applyMetadata (m : Metadata)
  | setClock (c : Clock)
  | failMount (fails : Bool)
  | failWrites (fails : Bool)
  deriving DecidableEq, Repr

def tell (slot : Slot) (deliveries : List (Unit × String)) : Slot := deliveries.foldl (fun slot d => slot.put d.2) slot

def step (s : Logging) : Event → Logging
  | .cycle air =>
    match s.pipeline.cycle s.clock.timestamp air with
    | (.error _, pipeline) => { s with pipeline }
    | (.ok deliveries, pipeline) =>
      { s with pipeline, logger := { s.logger with slot := tell s.logger.slot deliveries } }
  | .flush => { s with logger := (s.logger.flush s.clock.date).2 }
  | .mount => { s with logger := s.logger.mount.2 }
  | .applyMetadata m => { s with logger := s.logger.applyMetadata m }
  | .setClock clock => { s with clock }
  | .failMount fails => { s with logger := { s.logger with store := { s.logger.store with failMount := fails } } }
  | .failWrites fails => { s with logger := { s.logger with store := { s.logger.store with failWrites := fails } } }

def run (s : Logging) (events : List Event) : Logging := events.foldl step s

/-- The record that the logger is told of, if it is told of one. -/
def told? (s : Logging) : Event → Option String
  | .cycle air => ((s.pipeline.cycle s.clock.timestamp air).1.toOption.bind List.head?).map Prod.snd
  | _ => none

/-- The measurement that is added to a file, if one is. -/
def kept? (s : Logging) : Event → Option Measured
  | .flush => s.logger.added? (s.logger.flush s.clock.date).1
  | _ => none

/-- The records that the logger is told of in a run, in order. -/
def told (s : Logging) : List Event → List String
  | [] => []
  | e :: events => (s.told? e).toList ++ told (s.step e) events

/-- The measurements that a run adds to files, in order. -/
def kept (s : Logging) : List Event → List Measured
  | [] => []
  | e :: events => (s.kept? e).toList ++ kept (s.step e) events

/-! ### One step -/

theorem tell_map (slot : Slot) (observers : List Unit) (record : String) :
    tell slot (observers.map fun o => (o, record)) = if observers = [] then slot else ⟨some record⟩ := by
  unfold tell
  induction observers generalizing slot with
  | nil => rfl
  | cons o observers ih =>
    rw [List.map_cons, List.foldl_cons, ih, if_neg (List.cons_ne_nil _ _)]
    split <;> rfl

theorem slot_cycle (s : Logging) (air : Sample) :
    (s.step (.cycle air)).logger.store = s.logger.store ∧
      (s.step (.cycle air)).logger.slot.pending = (s.told? (.cycle air)).or s.logger.slot.pending := by
  unfold step told?
  dsimp only
  rw [Pipeline.cycle_eq]
  dsimp only
  by_cases h : Pipeline.maxRecordBytes < ((s.pipeline.bank.read air).record s.clock.timestamp).utf8ByteSize
  · rw [if_pos h]
    exact ⟨rfl, rfl⟩
  · rw [if_neg h]
    dsimp only
    rw [tell_map]
    refine ⟨rfl, ?_⟩
    cases s.pipeline.observers with
    | nil => rfl
    | cons o observers => rfl

/-- What a step adds to files, and what waits after it, is part of what waited before it and what it told. -/
theorem account_step (s : Logging) (e : Event) :
    ((s.kept? e).toList.map (·.record) ++ (s.step e).logger.slot.pending.toList).Sublist
      (s.logger.slot.pending.toList ++ (s.told? e).toList) := by
  cases e with
  | cycle air =>
    rw [(slot_cycle s air).2]
    cases s.told? (.cycle air) with
    | none => exact List.sublist_append_left _ _
    | some record => exact List.sublist_append_right _ _
  | flush =>
    have hflushed := s.logger.flushed s.clock.date
    have hslot : (s.step .flush).logger.slot = .empty := hflushed.slot
    rw [hslot]
    cases h : s.kept? .flush with
    | none => exact List.nil_sublist _
    | some m =>
      rw [hflushed.pending_of_added h]
      exact List.Sublist.refl _
  | mount | applyMetadata _ | setClock _ | failMount _ | failWrites _ => exact List.sublist_append_left _ _

theorem getD_files_step (s : Logging) (e : Event) (path : String) :
    ((s.step e).logger.store.files.get? path).getD [] =
      (s.logger.store.files.get? path).getD [] ++ Measured.bytesFor path (s.kept? e).toList := by
  have same : (s.step e).logger.store.files = s.logger.store.files → s.kept? e = none →
      ((s.step e).logger.store.files.get? path).getD [] =
        (s.logger.store.files.get? path).getD [] ++ Measured.bytesFor path (s.kept? e).toList := by
    intro hfiles hkept
    rw [hfiles, hkept]
    exact (List.append_nil _).symm
  cases e with
  | flush => exact (s.logger.flushed s.clock.date).getD_files path
  | cycle air => exact same (congrArg MemoryStore.files (slot_cycle s air).1) rfl
  | mount =>
    refine same ?_ rfl
    show s.logger.store.mount.2.files = _
    unfold MemoryStore.mount
    split <;> rfl
  | applyMetadata _ | setClock _ | failMount _ | failWrites _ => exact same rfl rfl

/-! ### Every run -/

theorem account_run (s : Logging) (events : List Event) :
    ((s.kept events).map (·.record) ++ (s.run events).logger.slot.pending.toList).Sublist
      (s.logger.slot.pending.toList ++ s.told events) := by
  induction events generalizing s with
  | nil => exact List.sublist_append_left _ _
  | cons e events ih =>
    -- What waits between the first step and the others is counted once: it is left by the one, found by the others.
    have hrest := (ih (s.step e)).append_left ((s.kept? e).toList.map (·.record))
    have hfirst := (account_step s e).append_right ((s.step e).told events)
    rw [List.append_assoc] at hfirst
    have hall := hrest.trans hfirst
    rw [← List.append_assoc, ← List.map_append, List.append_assoc] at hall
    exact hall

theorem getD_files_run (s : Logging) (events : List Event) (path : String) :
    ((s.run events).logger.store.files.get? path).getD [] =
      (s.logger.store.files.get? path).getD [] ++ Measured.bytesFor path (s.kept events) := by
  induction events generalizing s with
  | nil => exact (List.append_nil _).symm
  | cons e events ih =>
    calc ((s.run (e :: events)).logger.store.files.get? path).getD []
      _ = ((s.step e).logger.store.files.get? path).getD [] ++ Measured.bytesFor path ((s.step e).kept events) :=
        ih (s.step e)
      _ = (s.logger.store.files.get? path).getD [] ++ Measured.bytesFor path (s.kept (e :: events)) := by
        rw [getD_files_step, kept, Measured.bytesFor_append, List.append_assoc]

/-- Whatever happened to a logger before, a flush adds the record that waits to the file of the day or leaves the
    contents of every file, its answer tells which, and the slot is empty afterwards. The files have grown by some of
    the records that the logger was told of, each once and in order. -/
theorem flush_append_only (store : MemoryStore) (m : Metadata) (pipeline : Pipeline Unit) (clock : Clock)
    (events : List Event) :
    let start : Logging := ⟨.ofStore store m, pipeline, clock⟩
    let l := (start.run events).logger
    let today := l.fileName (start.run events).clock.date
    let result := (l.flush (start.run events).clock.date).1
    let l' := (l.flush (start.run events).clock.date).2
    (∀ path bytes, l.store.files.get? path = some bytes → ∃ more, l'.store.files.get? path = some (bytes ++ more)) ∧
      (∀ path, result = .ok (some path) → path = today ∧ ∃ record, l.slot.pending = some record ∧
        l'.store.files.get? path = some ((l.store.files.get? path).getD [] ++ Utf8.encode record) ∧
        ∀ p ≠ path, l'.store.files.get? p = l.store.files.get? p) ∧
      ((result = .ok none ↔ l.slot.pending = none) ∧ (result = .ok none → l' = l)) ∧
      (∀ e, result = .error e → ∀ p, l'.store.files.get? p = l.store.files.get? p ∨
        p = today ∧ l.store.files.get? p = none ∧ l'.store.files.get? p = some []) ∧
      l'.slot = .empty ∧
      ((start.kept events).map (·.record)).Sublist (start.told events) ∧
      ∀ path, (l.store.files.get? path).getD [] =
        (store.files.get? path).getD [] ++ Measured.bytesFor path (start.kept events) := by
  intro start l today result l'
  have hflushed : l.Flushed (start.run events).clock.date result l' := l.flushed _
  refine ⟨fun path bytes hfile => hflushed.extended hfile, fun path hpath => ?_,
    ⟨hflushed.eq_none_iff, fun hnone => ?_⟩, fun e herror => ?_, hflushed.slot, ?_, getD_files_run start events⟩
  · rw [hpath] at hflushed
    exact hflushed.of_path
  · rw [hnone] at hflushed
    exact hflushed.of_none
  · rw [herror] at hflushed
    exact hflushed.of_error.get?
  · exact (List.sublist_append_left _ _).trans (account_run start events)

/-- Writing fails when the file of the day is to be created: the record is lost, and the next one is added to the empty
    file. -/
example :
    let air : Sample := ⟨none, some 60, none, none⟩
    let start : Logging :=
      ⟨.ofStore .empty .factory, ⟨.full, [()], .none, "", none⟩, ⟨⟨2023, 1, 31, by decide⟩, ⟨23, 59, 0, by decide⟩⟩⟩
    let events : List Event :=
      [.mount, .failWrites true, .cycle air, .flush, .failWrites false, .cycle air, .flush]
    (start.told events).length = 2 ∧ (start.kept events).length = 1 ∧
      (start.run events).logger.store.files.entries.length = 1 := by decide +kernel

end Logging
end FieldLogger
