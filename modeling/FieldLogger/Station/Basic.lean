import FieldLogger.Config
import FieldLogger.FileLogger
import FieldLogger.Terminal.Session
import FieldLogger.Uplink

/-!
The whole station. It boots from its stores: the record is read from the internal one, the terminal is shown,
and measurements go to the external one and, if it is fitted and enabled, to the network. After that it goes
round in one loop of four tasks, always in this order:

    configuration → measurement → logger → network
-/

namespace FieldLogger

/-- Who is told of measurements. -/
inductive Listener where
  | logger
  | network
  deriving DecidableEq, Repr

/-- A station over an internal and an external store. -/
structure Station (ι ε : Type) where
  tickMs : UInt64
  session : Session (Registry ι)
  pipeline : Pipeline Listener
  /-- What each sensor would answer now. -/
  air : Sample
  logger : FileLogger ε
  uplink : Option Uplink
  /-- How a post would go now. -/
  attempt : Attempt
  scheduler : Scheduler
  /-- The posts made since this was last taken. -/
  traffic : Traffic
  deriving DecidableEq, Repr

/-! ### Booting -/

/-- Why a station cannot boot. -/
inductive BootError where
  | storage (e : StorageError)
  | scheduler (e : SchedulerError)
  | pipeline (e : PipelineError)
  deriving DecidableEq, Repr

def BootError.message : BootError → String
  | .storage e => "Armazenamento: " ++ e.message
  | .scheduler e => "Escalonador: " ++ e.message
  | .pipeline e => "Pipeline: " ++ e.message

/-- A boot that failed: what the terminal had printed, and the internal store as it was left. -/
structure BootFailure (ι : Type) where
  error : BootError
  console : String
  internal : ι
  deriving DecidableEq, Repr

/-- What a station is built from besides its stores. -/
structure Equipment where
  clock : Clock
  bank : SensorBank
  air : Sample
  /-- How posts go; without this there is no network. -/
  transport : Option Attempt
  deriving DecidableEq, Repr

namespace Station
variable {ι ε : Type}

/-- Mounts the internal store, boots the record and opens the terminal on it. -/
def openInternal [ByteStore ι] (config : Config) (clock : Clock) (internal : ι) :
    Except (BootFailure ι) (Session (Registry ι)) :=
  match (Registry.ofStore internal config.metadataFile).start with
  | (.error e, r) => .error ⟨.storage e, "", r.store⟩
  | (.ok m, r) => .ok (Session.start m clock r).2

/-- The network client, if there is a network and it is enabled. -/
def uplinkOf (config : Config) (transport : Option Attempt) : Option Uplink :=
  if transport.isSome ∧ config.enabled then
    some (.ofUrl config.serverUrl (msToTicks config.timeoutMs config.tickMs))
  else none

/-- The pipeline that tells the logger and then the network. -/
def pipelineOf (bank : SensorBank) (uplink : Option Uplink) : Except PipelineError (Pipeline Listener) :=
  ((Pipeline.ofBank bank).observe .logger).bind fun p => if uplink.isSome then p.observe .network else .ok p

/-- The scheduler with the measurement task, which is due at once. -/
def schedulerOf (m : Metadata) (tickMs : UInt64) : Except SchedulerError Scheduler :=
  (Scheduler.empty.register (.ofPeriod "medição" (minutesToTicks m.measurement tickMs))).map (·.trigger 0)

/-- Mounts the external store and puts the station together around a session. -/
def assemble [ByteStore ε] (config : Config) (equipment : Equipment) (session : Session (Registry ι))
    (external : ε) : Except BootError (Station ι ε) := do
  let m := session.mediator.metadata
  let (mounted, logger) := (FileLogger.ofStore external m).mount
  mounted.mapError .storage
  let uplink := uplinkOf config equipment.transport
  let pipeline ← (pipelineOf equipment.bank uplink).mapError .pipeline
  let scheduler ← (schedulerOf m config.tickMs).mapError .scheduler
  return {
    tickMs := config.tickMs
    session, pipeline, logger, uplink, scheduler
    air := equipment.air
    attempt := equipment.transport.getD (.refused .noData)
    traffic := .none }

/-- Boots a station; `external` is the external store in the face of the internal one as the terminal opened. -/
def boot [ByteStore ι] [ByteStore ε] (config : Config) (equipment : Equipment) (internal : ι)
    (external : ι → ε) : Except (BootFailure ι) (Station ι ε) :=
  (openInternal config equipment.clock internal).bind fun session =>
    let internal := session.mediator.store
    (assemble config equipment session (external internal)).mapError
      fun e => ⟨e, session.terminal.console, internal⟩

/-! ### The tasks -/

/-- The place of the measurement task in the scheduler. -/
def measurementIndex : Nat := 0

/-- Schedules and names measurements by a record. -/
def applyMetadata (s : Station ι ε) (m : Metadata) : Station ι ε :=
  { s with
    scheduler := s.scheduler.setPeriod measurementIndex (minutesToTicks m.measurement s.tickMs)
    logger := s.logger.applyMetadata m }

/-- Passes the record on to the other parts if it changed since that was last done. -/
def propagate (s : Station ι ε) : Station ι ε :=
  let (changed, registry) := s.session.mediator.takeChanged
  let s := { s with session := { s.session with mediator := registry } }
  if changed then s.applyMetadata registry.metadata else s

/-- Gives a line, if one was typed, to the terminal and then passes the record on. -/
def configurationTask [ByteStore ι] (s : Station ι ε) (line : Option String) : Station ι ε :=
  match line with
  | none => s.propagate
  | some line => { s with session := (s.session.typeLine line).2 }.propagate

/-- Puts a record into the slot of a listener. -/
def deliver (s : Station ι ε) (delivery : Listener × String) : Station ι ε :=
  match delivery with
  | (.logger, record) => { s with logger := { s.logger with slot := s.logger.slot.put record } }
  | (.network, record) => { s with uplink := s.uplink.map fun u => { u with slot := u.slot.put record } }

def measure (s : Station ι ε) : Station ι ε :=
  match s.pipeline.cycle s.session.clock.timestamp s.air with
  | (.error _, pipeline) => { s with pipeline }
  | (.ok deliveries, pipeline) => deliveries.foldl deliver { s with pipeline }

def measurementTask (s : Station ι ε) : Station ι ε :=
  let (due, scheduler) := s.scheduler.take measurementIndex
  let s := { s with scheduler }
  if due then s.measure else s

/-- Adds the measurement that waits, if there is one, to its file. -/
def loggerTask [ByteStore ε] (s : Station ι ε) : Station ι ε :=
  { s with logger := (s.logger.flush s.session.clock.date).2 }

/-- Sends the measurement that waits, if there is one. -/
def networkTask (s : Station ι ε) : Station ι ε :=
  match s.uplink with
  | none => s
  | some u =>
    let posted := u.post s.attempt s.scheduler
    { s with uplink := some posted.uplink, scheduler := posted.ticks, traffic := s.traffic.append posted.traffic }

/-- The tasks of a round that stay on the device. -/
def iterateLocally [ByteStore ι] [ByteStore ε] (s : Station ι ε) (line : Option String) : Station ι ε :=
  (s.configurationTask line).measurementTask.loggerTask

def iterate [ByteStore ι] [ByteStore ε] (s : Station ι ε) (line : Option String) : Station ι ε :=
  (s.iterateLocally line).networkTask

/-! ### From outside -/

def ticks (s : Station ι ε) (n : Nat) : Station ι ε := { s with scheduler := s.scheduler.advance n }

def trigger (s : Station ι ε) : Station ι ε := { s with scheduler := s.scheduler.trigger measurementIndex }

/-- Sets the time of the clock. -/
def setTime (s : Station ι ε) (hour minute second : Nat) : Except EntryError (Station ι ε) :=
  (s.session.clock.setTime hour minute second).map fun clock => { s with session := { s.session with clock } }

/-- Sets the date of the clock. -/
def setDate (s : Station ι ε) (day month : Nat) (year : Int) : Except EntryError (Station ι ε) :=
  (s.session.clock.setDate day month year).map fun clock => { s with session := { s.session with clock } }

end Station
end FieldLogger
