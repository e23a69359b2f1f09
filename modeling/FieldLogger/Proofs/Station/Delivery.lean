import FieldLogger.Proofs.Station.Coherence
import FieldLogger.Proofs.Station.Mailbox
import FieldLogger.Proofs.Storage.MemoryFiles

/-! Every measurement reaches its file (`run_delivers`). A round that finds the flag of the measurement task up adds
    one record to the file of the day, under the name that the record in memory asks for by then; no other
    round and nothing else that happens to a station touches a file of measurements. -/

namespace FieldLogger

/-! ### Measurements -/

/-- A record and the file that it belongs to. -/
structure Measured where
  file : String
  record : String
  deriving DecidableEq, Repr

/-- The files with a measurement added. -/
def Files.keep (fs : Files) (m : Measured) : Files := fs.append m.file (Utf8.encode m.record)

/-- The bytes that measurements add to one file. -/
def Measured.bytesFor (path : String) (ms : List Measured) : Bytes :=
  (ms.filter (·.file == path)).flatMap fun m => Utf8.encode m.record

theorem Files.get?_keep (fs : Files) (m : Measured) (path : String) :
    (fs.keep m).get? path =
      if path = m.file then some ((fs.get? path).getD [] ++ Utf8.encode m.record) else fs.get? path := by
  unfold Files.keep Files.append
  rw [Files.get?_set]
  split
  · rename_i hpath
    rw [hpath]
  · rfl

theorem Files.getD_foldl_keep (ms : List Measured) (fs : Files) (path : String) :
    ((ms.foldl Files.keep fs).get? path).getD [] = (fs.get? path).getD [] ++ Measured.bytesFor path ms := by
  induction ms generalizing fs with
  | nil => exact (List.append_nil _).symm
  | cons m ms ih =>
    rw [List.foldl_cons, ih, Files.get?_keep]
    unfold Measured.bytesFor
    by_cases hpath : path = m.file
    · rw [if_pos hpath, List.filter_cons_of_pos (by rw [hpath, beq_self_eq_true]), List.flatMap_cons, Option.getD_some,
        List.append_assoc]
    · rw [if_neg hpath, List.filter_cons_of_neg (by simpa using fun h => hpath h.symm)]

theorem Files.get?_foldl_keep {ms : List Measured} {path : String} (h : ∀ m ∈ ms, m.file ≠ path) (fs : Files) :
    (ms.foldl Files.keep fs).get? path = fs.get? path := by
  induction ms generalizing fs with
  | nil => rfl
  | cons m ms ih =>
    rw [List.foldl_cons, ih fun m' hm' => h m' (List.mem_cons_of_mem _ hm'), Files.get?_keep,
      if_neg fun hpath => h m List.mem_cons_self hpath.symm]

namespace Station

/-- The flag of the measurement task is up. -/
def isDue (s : InMemory) : Bool := (s.scheduler.task? measurementIndex).any (·.pending)

/-- What a round measures, if the flag of the measurement task is up: the record of its clock and its sensors, and
    the file that the record in memory names for the day. -/
def measured? (s : InMemory) (line : Option String) : Option Measured :=
  let s := s.configurationTask line
  let m := s.session.mediator.metadata
  if s.isDue then
    some {
      file := Rotation.fileName m.name m.filePeriod s.session.clock.date
      record := (s.pipeline.bank.read s.air).record s.session.clock.timestamp }
  else none

/-- What the rounds of a run measure, in order. -/
def measurements (s : InMemory) : List Event → List Measured
  | [] => []
  | .iterate line :: events => (s.measured? line).toList ++ measurements (s.iterate line) events
  | e :: events => measurements (s.step e) events

/-- The logger is told first, and once. -/
def LoggerFirst (observers : List Listener) : Prop := ∃ others, observers = .logger :: others ∧ .logger ∉ others

/-- The station can measure and keep what it measures: the logger is told of it, nothing waits in its slot, its
    store takes records, and the clock stands in range. -/
structure Recording (s : InMemory) : Prop where
  coherent : s.configuration.Coherent
  observers : LoggerFirst s.pipeline.observers
  slot : s.logger.slot = .empty
  mounted : s.logger.store.mounted = true
  writable : s.logger.store.failWrites = false
  clock : s.session.clock.InRange

/-! ### The tasks of a round -/

attribute [local irreducible] Session.typeLine

theorem logger_propagate (s : InMemory) :
    s.propagate.logger.store = s.logger.store ∧ s.propagate.logger.slot = s.logger.slot ∧
      s.propagate.pipeline = s.pipeline := by
  rw [propagate_eq]
  split <;> exact ⟨rfl, rfl, rfl⟩

theorem logger_configurationTask (s : InMemory) (line : Option String) :
    (s.configurationTask line).logger.store = s.logger.store ∧
      (s.configurationTask line).logger.slot = s.logger.slot ∧
      (s.configurationTask line).pipeline = s.pipeline := by
  rw [configurationTask_eq]
  exact logger_propagate _

theorem inRange_configurationTask {s : InMemory} (h : s.session.clock.InRange) (line : Option String) :
    (s.configurationTask line).session.clock.InRange := by
  obtain ⟨settings, hclock⟩ := clock_configurationTask s line
  rw [hclock]
  exact Clock.inRange_run h settings

theorem recording_configurationTask {s : InMemory} (h : s.Recording) (line : Option String) :
    (s.configurationTask line).Recording := by
  obtain ⟨hstore, hslot, hpipeline⟩ := logger_configurationTask s line
  refine ⟨coherent_configurationTask h.coherent line, ?_, hslot.trans h.slot, ?_, ?_,
    inRange_configurationTask h.clock line⟩
  · rw [hpipeline]
    exact h.observers
  · rw [hstore]
    exact h.mounted
  · rw [hstore]
    exact h.writable

theorem deliver_others {others : List Listener} (h : Listener.logger ∉ others) (record : String) (s : InMemory) :
    ((others.map fun o => (o, record)).foldl deliver s).logger = s.logger := by
  induction others generalizing s with
  | nil => rfl
  | cons o others ih =>
    rw [List.map_cons, List.foldl_cons, ih fun hmem => h (List.mem_cons_of_mem _ hmem)]
    cases o with
    | logger => exact absurd List.mem_cons_self h
    | network => rfl

theorem pipeline_deliveries (ds : List (Listener × String)) (s : InMemory) :
    (ds.foldl deliver s).pipeline = s.pipeline := by
  induction ds generalizing s with
  | nil => rfl
  | cons d ds ih =>
    obtain ⟨listener, record⟩ := d
    cases listener <;> exact ih _

/-- The record that a station would make now. -/
def recordNow (s : InMemory) : String := (s.pipeline.bank.read s.air).record s.session.clock.timestamp

/-- A measurement puts its record into the slot of the logger and changes nothing else of it. -/
theorem measure_logger {s : InMemory} (hobs : LoggerFirst s.pipeline.observers) (hclock : s.session.clock.InRange) :
    s.measure.logger = { s.logger with slot := ⟨some s.recordNow⟩ } ∧
      s.measure.pipeline.observers = s.pipeline.observers := by
  obtain ⟨others, hobs, hothers⟩ := hobs
  have hsize : s.recordNow.utf8ByteSize ≤ Pipeline.maxRecordBytes :=
    Nat.le_trans (Sample.size_record_le _ hclock) (by decide)
  unfold measure
  rw [Pipeline.cycle_ok _ hsize]
  dsimp only
  refine ⟨?_, ?_⟩
  · rw [hobs, List.map_cons, List.foldl_cons, deliver_others hothers]
    rfl
  · rw [pipeline_deliveries]

/-- The task finds the flag as it is. -/
theorem take_measurement (s : InMemory) : (s.scheduler.take measurementIndex).1 = s.isDue := by
  unfold isDue Scheduler.take
  cases s.scheduler.task? measurementIndex <;> rfl

theorem measurementTask_logger {s : InMemory} (h : s.Recording) :
    s.measurementTask.logger =
        { s.logger with slot := ⟨if s.isDue then some s.recordNow else none⟩ } ∧
      s.measurementTask.pipeline.observers = s.pipeline.observers := by
  have hmeasure := measure_logger (s := { s with scheduler := (s.scheduler.take measurementIndex).2 }) h.observers
    h.clock
  unfold recordNow at hmeasure ⊢
  dsimp only at hmeasure
  unfold measurementTask
  dsimp only
  rw [take_measurement]
  cases s.isDue with
  | true =>
    rw [if_pos rfl, if_pos rfl]
    exact hmeasure
  | false =>
    rw [if_neg (by decide), if_neg (by decide)]
    refine ⟨?_, rfl⟩
    show s.logger = { s.logger with slot := .empty }
    rw [← h.slot]

/-- The logger adds the record that waits to the file of the date, and nothing if none waits. -/
theorem flush_writable {l : FileLogger MemoryStore} (hm : l.store.mounted = true) (hw : l.store.failWrites = false)
    (date : Date) :
    ∃ handle, (l.flush date).2 =
      { l with
        store := { l.store with
          files := (l.slot.pending.map fun record => (⟨l.fileName date, record⟩ : Measured)).toList.foldl Files.keep
            l.store.files
          handle }
        slot := .empty } := by
  obtain ⟨store, name, period, ⟨pending⟩⟩ := l
  cases pending with
  | none => exact ⟨store.handle, rfl⟩
  | some record =>
    refine ⟨none, ?_⟩
    unfold FileLogger.flush Slot.take
    dsimp only
    rw [MemoryStore.append_ok hm hw]
    rfl

theorem networkTask_logger (s : InMemory) :
    s.networkTask.logger = s.logger ∧ s.networkTask.pipeline = s.pipeline := by
  unfold networkTask
  split <;> exact ⟨rfl, rfl⟩

/-! ### Rounds and runs -/

/-- What waits for the logger when it has its turn is what the round measured. -/
theorem measured?_eq {s : InMemory} (h : s.Recording) (line : Option String) :
    ((s.configurationTask line).measurementTask.logger.slot.pending.map fun record =>
        (⟨(s.configurationTask line).measurementTask.logger.fileName
          (s.configurationTask line).measurementTask.session.clock.date, record⟩ : Measured)) = s.measured? line := by
  have hc := recording_configurationTask h line
  unfold measured?
  dsimp only
  generalize s.configurationTask line = c at hc ⊢
  have hname : c.logger.name = c.session.mediator.metadata.name := congrArg (·.loggerName) hc.coherent
  have hperiod : c.logger.period = c.session.mediator.metadata.filePeriod := congrArg (·.filePeriod) hc.coherent
  rw [(measurementTask_logger hc).1, (configuration_measurementTask c).2]
  unfold FileLogger.fileName
  dsimp only
  rw [hname, hperiod]
  cases c.isDue <;> rfl

/-- The logger after a round, where its turn comes after the measurement. -/
theorem logger_iterate {s : InMemory} (h : s.Recording) (line : Option String) :
    ∃ handle, (s.iterate line).logger =
      { (s.configurationTask line).logger with
        store := { s.logger.store with
          files := (s.measured? line).toList.foldl Files.keep s.logger.store.files
          handle }
        slot := .empty } := by
  have hc := recording_configurationTask h line
  have hstore := (logger_configurationTask s line).1
  have hlogger := (measurementTask_logger hc).1
  have hmounted : (s.configurationTask line).measurementTask.logger.store.mounted = true := by
    rw [hlogger]
    exact hc.mounted
  have hwritable : (s.configurationTask line).measurementTask.logger.store.failWrites = false := by
    rw [hlogger]
    exact hc.writable
  have hlast : (s.iterate line).logger = ((s.configurationTask line).measurementTask.logger.flush
      (s.configurationTask line).measurementTask.session.clock.date).2 := (networkTask_logger _).1
  obtain ⟨handle, hflush⟩ := flush_writable hmounted hwritable
    (s.configurationTask line).measurementTask.session.clock.date
  refine ⟨handle, ?_⟩
  rw [hlast, hflush, measured?_eq h line, hlogger]
  dsimp only
  rw [hstore]

theorem recording_iterate {s : InMemory} (h : s.Recording) (line : Option String) : (s.iterate line).Recording := by
  have hc := recording_configurationTask h line
  obtain ⟨handle, hlogger⟩ := logger_iterate h line
  have hpipeline : (s.iterate line).pipeline = (s.configurationTask line).measurementTask.pipeline :=
    (networkTask_logger _).2
  refine ⟨coherent_step h.coherent (.iterate line), ?_, ?_, ?_, ?_, ?_⟩
  · rw [hpipeline, (measurementTask_logger hc).2]
    exact hc.observers
  · rw [hlogger]
  · rw [hlogger]
    exact h.mounted
  · rw [hlogger]
    exact h.writable
  · rw [(configuration_iterate s line).2]
    exact hc.clock

theorem files_step {s : InMemory} {e : Event} (h : ¬∃ line, e = .iterate line) :
    (s.step e).logger.store.files = s.logger.store.files := by
  cases e with
  | iterate line => exact absurd ⟨line, rfl⟩ h
  | ticks _ | trigger | air _ | attempt _ | failInternal _ | failExternal _ => rfl
  | setTime hour minute second =>
    obtain ⟨clock, hstep, -⟩ := step_setTime s hour minute second
    rw [hstep]
  | setDate day month year =>
    obtain ⟨clock, hstep, -⟩ := step_setDate s day month year
    rw [hstep]

theorem recording_step {s : InMemory} (h : s.Recording) {e : Event} (he : e ≠ .failExternal true) :
    (s.step e).Recording := by
  have hcoherent := coherent_step h.coherent e
  cases e with
  | iterate line => exact recording_iterate h line
  | ticks _ | trigger | air _ | attempt _ | failInternal _ =>
    exact ⟨hcoherent, h.observers, h.slot, h.mounted, h.writable, h.clock⟩
  | failExternal fails =>
    refine ⟨hcoherent, h.observers, h.slot, h.mounted, ?_, h.clock⟩
    cases fails with
    | false => rfl
    | true => exact absurd rfl he
  | setTime hour minute second =>
    obtain ⟨clock, hstep, hclock⟩ := step_setTime s hour minute second
    rw [hstep] at hcoherent ⊢
    refine ⟨hcoherent, h.observers, h.slot, h.mounted, h.writable, ?_⟩
    rcases hclock with rfl | hset
    · exact h.clock
    · exact Clock.inRange_setTime h.clock hset
  | setDate day month year =>
    obtain ⟨clock, hstep, hclock⟩ := step_setDate s day month year
    rw [hstep] at hcoherent ⊢
    refine ⟨hcoherent, h.observers, h.slot, h.mounted, h.writable, ?_⟩
    rcases hclock with rfl | hset
    · exact h.clock
    · exact Clock.inRange_setDate hset

theorem files_run {s : InMemory} (h : s.Recording) {events : List Event} (he : ∀ e ∈ events, e ≠ .failExternal true) :
    (s.run events).logger.store.files = (s.measurements events).foldl Files.keep s.logger.store.files := by
  induction events generalizing s with
  | nil => rfl
  | cons e events ih =>
    have hrest := ih (recording_step h (he e List.mem_cons_self)) fun e' he' => he e' (List.mem_cons_of_mem _ he')
    by_cases hround : ∃ line, e = .iterate line
    · obtain ⟨line, rfl⟩ := hround
      obtain ⟨handle, hlogger⟩ := logger_iterate h line
      have hfiles : (s.step (.iterate line)).logger.store.files =
          (s.measured? line).toList.foldl Files.keep s.logger.store.files := by
        change (s.iterate line).logger.store.files = _
        rw [hlogger]
      -- The rounds that follow start from the files with the record of this one.
      rw [hfiles, ← List.foldl_append] at hrest
      exact hrest
    · rw [files_step hround] at hrest
      have hmeasurements : s.measurements (e :: events) = (s.step e).measurements events := by
        cases e with
        | iterate line => exact absurd ⟨line, rfl⟩ hround
        | _ => rfl
      rw [hmeasurements]
      exact hrest

theorem recording_of_boot {config : Config} {equipment : Equipment} {internal external : MemoryStore} {s : InMemory}
    (h : Station.boot config equipment internal (fun _ => external) = .ok s) (hw : external.failWrites = false)
    (hclock : equipment.clock.InRange) : s.Recording ∧ s.logger.store.files = external.files := by
  have hcoherent := coherent_of_boot h
  obtain ⟨m, registry, -, hassemble⟩ := boot_ok h
  obtain ⟨store, hmount, rfl⟩ := assemble_ok hassemble
  obtain rfl := MemoryStore.mount_ok hmount
  refine ⟨⟨hcoherent, ⟨_, rfl, ?_⟩, rfl, rfl, hw, hclock⟩, rfl⟩
  split <;> decide

/-- While the external store takes records, a run adds to its files exactly what its rounds measured, each record
    once and in order, and leaves every other file as it was. -/
theorem run_delivers {config : Config} {equipment : Equipment} {internal external : MemoryStore} {s : InMemory}
    (h : Station.boot config equipment internal (fun _ => external) = .ok s) (hw : external.failWrites = false)
    (hclock : equipment.clock.InRange) {events : List Event} (hevents : ∀ e ∈ events, e ≠ .failExternal true) :
    let files := (s.run events).logger.store.files
    let measured := s.measurements events
    files = measured.foldl Files.keep external.files ∧
      ∀ path, (files.get? path).getD [] = (external.files.get? path).getD [] ++ Measured.bytesFor path measured ∧
        ((∀ m ∈ measured, m.file ≠ path) → files.get? path = external.files.get? path) := by
  intro files measured
  obtain ⟨hrecording, hfiles⟩ := recording_of_boot h hw hclock
  have hrun : files = measured.foldl Files.keep external.files := by
    rw [← hfiles]
    exact files_run hrecording hevents
  refine ⟨hrun, fun path => ?_⟩
  rw [hrun]
  exact ⟨Files.getD_foldl_keep measured external.files path, fun hnone => Files.get?_foldl_keep hnone external.files⟩

/-- A station that measures, is renamed and measures again after its period. -/
theorem run_delivers_bench :
    ∃ s : InMemory, Station.boot .factory bench .empty (fun _ => .empty) = .ok s ∧
      let events : List Event := [.iterate none, .iterate (some "c"), .iterate (some "n"), .iterate (some "st 1"),
        .iterate (some "s"), .ticks 60000, .iterate none]
      let files := (s.run events).logger.store.files
      let measured := s.measurements events
      files = measured.foldl Files.keep .empty ∧
        ∀ path, (files.get? path).getD [] = (Files.empty.get? path).getD [] ++ Measured.bytesFor path measured ∧
          ((∀ m ∈ measured, m.file ≠ path) → files.get? path = Files.empty.get? path) := by
  obtain ⟨s, h⟩ := exists_boot_bench
  exact ⟨s, h, run_delivers h rfl (by unfold Clock.InRange; decide) (by decide)⟩

end Station
end FieldLogger
