import FieldLogger.Proofs.Scheduler.Periods
import FieldLogger.Proofs.Registry.Outcomes
import FieldLogger.Proofs.Terminal.Effects
import FieldLogger.Station.Run

/-! What a station measures by: the record in memory and what its parts took from it (`Configuration`). Only
    the configuration task changes it. It is coherent when the parts follow the record, as they do at the end
    of the boot and after a change that was announced. -/

namespace FieldLogger

/-- The record in memory, and what the logger and the measurement task took from it. -/
structure Configuration where
  metadata : Metadata
  /-- The name that measurement files are named after. -/
  loggerName : String
  /-- How often a measurement file is started. -/
  filePeriod : FilePeriod
  /-- The period of the measurement task in ticks. -/
  taskPeriod : Option UInt64
  tickMs : UInt64
  deriving DecidableEq, Repr

namespace Configuration

/-- The configuration in which every part follows a record. -/
def following (m : Metadata) (tickMs : UInt64) : Configuration :=
  ⟨m, m.name, m.filePeriod, some (minutesToTicks m.measurement tickMs), tickMs⟩

/-- Every part follows the record in memory. -/
def Coherent (c : Configuration) : Prop := c = following c.metadata c.tickMs

end Configuration

/-- The session after a round had a line for it, or none. -/
def Session.typed {μ : Type} [Mediator μ] (s : Session μ) : Option String → Session μ
  | none => s
  | some line => (s.typeLine line).2

namespace Station
variable {ι ε : Type}

/-- The configuration of a station. -/
def configuration (s : Station ι ε) : Configuration where
  metadata := s.session.mediator.metadata
  loggerName := s.logger.name
  filePeriod := s.logger.period
  taskPeriod := s.scheduler.period? measurementIndex
  tickMs := s.tickMs

/-! ### Booting -/

theorem schedulerOf_eq (m : Metadata) (tickMs : UInt64) :
    schedulerOf m tickMs = .ok ⟨0, [⟨"medição", minutesToTicks m.measurement tickMs, true⟩]⟩ := rfl

/-- The observers of a pipeline: the logger, then the network if there is one. -/
def observersOf (uplink : Option Uplink) : List Listener :=
  .logger :: if uplink.isSome then [.network] else []

theorem pipelineOf_eq (bank : SensorBank) (uplink : Option Uplink) :
    pipelineOf bank uplink = .ok ⟨bank, observersOf uplink, .none, "", none⟩ := by
  cases uplink <;> rfl

theorem assemble_ok [ByteStore ε] {config : Config} {equipment : Equipment} {session : Session (Registry ι)}
    {external : ε} {s : Station ι ε} (h : assemble config equipment session external = .ok s) :
    ∃ store, ByteStore.mount external = (.ok (), store) ∧
      s = {
        tickMs := config.tickMs
        session
        pipeline := ⟨equipment.bank, observersOf (uplinkOf config equipment.transport), .none, "", none⟩
        air := equipment.air
        logger := .ofStore store session.mediator.metadata
        uplink := uplinkOf config equipment.transport
        attempt := equipment.transport.getD (.refused .noData)
        scheduler := ⟨0, [⟨"medição", minutesToTicks session.mediator.metadata.measurement config.tickMs, true⟩]⟩
        traffic := .none } := by
  unfold assemble FileLogger.mount at h
  dsimp only at h
  cases hmount : ByteStore.mount (FileLogger.ofStore external session.mediator.metadata).store with
  | mk result store =>
    refine ⟨store, ?_⟩
    rw [hmount] at h
    cases result with
    | error e => cases h
    | ok u =>
      rw [pipelineOf_eq, schedulerOf_eq] at h
      exact ⟨hmount, (Except.ok.inj h).symm⟩

theorem boot_ok [ByteStore ι] [ByteStore ε] {config : Config} {equipment : Equipment} {internal : ι}
    {external : ι → ε} {s : Station ι ε} (h : boot config equipment internal external = .ok s) :
    ∃ m registry, (Registry.ofStore internal config.metadataFile).start = (.ok m, registry) ∧
      assemble config equipment (Session.start m equipment.clock registry).2 (external registry.store) = .ok s := by
  unfold boot openInternal at h
  cases hstart : (Registry.ofStore internal config.metadataFile).start with
  | mk result registry =>
    rw [hstart] at h
    cases result with
    | error e => cases h
    | ok m =>
      refine ⟨m, registry, rfl, ?_⟩
      change (assemble config equipment (Session.start m equipment.clock registry).2 (external registry.store)).mapError
        _ = _ at h
      cases hassemble : assemble config equipment (Session.start m equipment.clock registry).2
          (external registry.store) with
      | error e =>
        rw [hassemble] at h
        cases h
      | ok s' =>
        rw [hassemble] at h
        exact congrArg Except.ok (Except.ok.inj h)

theorem coherent_of_boot [ByteStore ι] [ByteStore ε] {config : Config} {equipment : Equipment} {internal : ι}
    {external : ι → ε} {s : Station ι ε} (h : boot config equipment internal external = .ok s) :
    s.configuration.Coherent := by
  obtain ⟨m, registry, -, hassemble⟩ := boot_ok h
  obtain ⟨store, -, rfl⟩ := assemble_ok hassemble
  rfl

theorem tickMs_of_boot [ByteStore ι] [ByteStore ε] {config : Config} {equipment : Equipment} {internal : ι}
    {external : ι → ε} {s : Station ι ε} (h : boot config equipment internal external = .ok s) :
    s.tickMs = config.tickMs := by
  obtain ⟨m, registry, -, hassemble⟩ := boot_ok h
  obtain ⟨store, -, rfl⟩ := assemble_ok hassemble
  rfl

/-- All sensors, and a server that accepts every record at once. -/
def bench : Equipment where
  clock := ⟨⟨2024, 5, 17, by decide⟩, ⟨12, 30, 0, by decide⟩⟩
  bank := .full
  air := ⟨some (.ofRatio 215 10), some 60, some 0, some 3⟩
  transport := some (.started ⟨[2], 1, .completed 200⟩)

theorem exists_boot (config : Config) (equipment : Equipment) (internal : MemoryStore)
    (external : MemoryStore → MemoryStore)
    (hok : (Station.boot config equipment internal external : Except _ InMemory).toOption.isSome = true) :
    ∃ s : InMemory, Station.boot config equipment internal external = .ok s := by
  cases h : (Station.boot config equipment internal external : Except (BootFailure MemoryStore) InMemory) with
  | error e =>
    rw [h] at hok
    cases hok
  | ok s => exact ⟨s, rfl⟩

theorem exists_boot_bench : ∃ s : InMemory, Station.boot .factory bench .empty (fun _ => .empty) = .ok s :=
  exists_boot _ _ _ _ (by decide +kernel)

/-! ### Tasks that change no configuration -/

theorem configuration_deliver (s : Station ι ε) (d : Listener × String) :
    (s.deliver d).configuration = s.configuration ∧ (s.deliver d).session = s.session := by
  obtain ⟨listener, record⟩ := d
  cases listener <;> exact ⟨rfl, rfl⟩

theorem configuration_deliveries (ds : List (Listener × String)) (s : Station ι ε) :
    (ds.foldl deliver s).configuration = s.configuration ∧ (ds.foldl deliver s).session = s.session := by
  induction ds generalizing s with
  | nil => exact ⟨rfl, rfl⟩
  | cons d ds ih =>
    have hd := configuration_deliver s d
    exact ⟨(ih _).1.trans hd.1, (ih _).2.trans hd.2⟩

theorem configuration_measurementTask (s : Station ι ε) :
    s.measurementTask.configuration = s.configuration ∧ s.measurementTask.session = s.session := by
  have htake : ({ s with scheduler := (s.scheduler.take measurementIndex).2 } : Station ι ε).configuration =
      s.configuration := by
    unfold configuration
    rw [Scheduler.period?_take]
  unfold measurementTask
  dsimp only
  split
  · unfold measure
    split
    · exact ⟨htake, rfl⟩
    · obtain ⟨hconf, hsession⟩ := configuration_deliveries _ _
      exact ⟨hconf.trans htake, hsession⟩
  · exact ⟨htake, rfl⟩

theorem naming_flush [ByteStore ε] (l : FileLogger ε) (date : Date) :
    (l.flush date).2.name = l.name ∧ (l.flush date).2.period = l.period := by
  unfold FileLogger.flush
  split <;> exact ⟨rfl, rfl⟩

theorem configuration_loggerTask [ByteStore ε] (s : Station ι ε) :
    s.loggerTask.configuration = s.configuration ∧ s.loggerTask.session = s.session := by
  obtain ⟨hname, hperiod⟩ := naming_flush s.logger s.session.clock.date
  refine ⟨?_, rfl⟩
  unfold configuration loggerTask
  dsimp only
  rw [hname, hperiod]

theorem configuration_networkTask (s : Station ι ε) :
    s.networkTask.configuration = s.configuration ∧ s.networkTask.session = s.session := by
  unfold networkTask
  split
  · exact ⟨rfl, rfl⟩
  · refine ⟨?_, rfl⟩
    unfold configuration
    dsimp only
    rw [Scheduler.period?_post]

theorem configuration_iterate [ByteStore ι] [ByteStore ε] (s : Station ι ε) (line : Option String) :
    (s.iterate line).configuration = (s.configurationTask line).configuration ∧
      (s.iterate line).session = (s.configurationTask line).session := by
  obtain ⟨hm, hm'⟩ := configuration_measurementTask (s.configurationTask line)
  obtain ⟨hl, hl'⟩ := configuration_loggerTask (s.configurationTask line).measurementTask
  obtain ⟨hn, hn'⟩ := configuration_networkTask (s.iterateLocally line)
  exact ⟨hn.trans (hl.trans hm), hn'.trans (hl'.trans hm')⟩

/-! ### Passing the record on -/

/-- The station once the mark of a change is taken down. -/
def unmarked (s : Station ι ε) : Station ι ε :=
  { s with session := { s.session with mediator := { s.session.mediator with changed := false } } }

theorem propagate_eq (s : Station ι ε) :
    s.propagate =
      if s.session.mediator.changed then s.unmarked.applyMetadata s.session.mediator.metadata else s.unmarked := rfl

theorem session_propagate (s : Station ι ε) : s.propagate.session = s.unmarked.session := by
  rw [propagate_eq]
  split <;> rfl

theorem tickMs_propagate (s : Station ι ε) : s.propagate.tickMs = s.tickMs := by
  rw [propagate_eq]
  split <;> rfl

/-- The station once the line of a round, if there is one, was typed. -/
def typed [ByteStore ι] (s : Station ι ε) (line : Option String) : Station ι ε :=
  { s with session := s.session.typed line }

theorem configurationTask_eq [ByteStore ι] (s : Station ι ε) (line : Option String) :
    s.configurationTask line = (s.typed line).propagate := by cases line <;> rfl

theorem session_configurationTask [ByteStore ι] (s : Station ι ε) (line : Option String) :
    (s.configurationTask line).session =
      { s.session.typed line with mediator := { (s.session.typed line).mediator with changed := false } } := by
  rw [configurationTask_eq, session_propagate]
  rfl

theorem tickMs_configurationTask [ByteStore ι] (s : Station ι ε) (line : Option String) :
    (s.configurationTask line).tickMs = s.tickMs := by
  rw [configurationTask_eq, tickMs_propagate]
  rfl

/-- A record that has changed is taken over by every part. -/
theorem configuration_of_changed {s : Station ι ε} (h : s.session.mediator.changed = true)
    (htask : s.configuration.taskPeriod.isSome = true) :
    s.propagate.configuration = .following s.session.mediator.metadata s.tickMs := by
  obtain ⟨period, hperiod⟩ := Option.isSome_iff_exists.mp htask
  have hset : (s.scheduler.setPeriod measurementIndex
      (minutesToTicks s.session.mediator.metadata.measurement s.tickMs)).period? measurementIndex =
        some (minutesToTicks s.session.mediator.metadata.measurement s.tickMs) := by
    rw [Scheduler.period?_setPeriod]
    exact congrArg (Option.map _) hperiod
  rw [propagate_eq, if_pos h]
  unfold applyMetadata configuration Configuration.following
  exact congrArg (Configuration.mk _ _ _ · _) hset

theorem coherent_propagate {s : Station ι ε} (htask : s.configuration.taskPeriod.isSome = true)
    (h : s.session.mediator.changed = true ∨ s.configuration.Coherent) : s.propagate.configuration.Coherent := by
  cases hchanged : s.session.mediator.changed with
  | true =>
    rw [configuration_of_changed hchanged htask]
    rfl
  | false =>
    rw [hchanged] at h
    rw [propagate_eq, hchanged, if_neg (by decide)]
    exact h.resolve_left (by decide)

end Station
end FieldLogger
