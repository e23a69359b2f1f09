import FieldLogger.Calendar.RunningClock
import FieldLogger.Http.Exchange
import FieldLogger.Serial
import FieldLogger.Startup
import FieldLogger.Weather.Simulated
import Std.Async.DNS
import Std.Async.TCP
import Std.Time.Zoned

/-!
The program on a host: standard input is the serial line and standard output the terminal, the stores are
directories, and ticks are counted off the clock of the host. What is decided is decided by the station; here
its inputs are gathered and its outputs carried out. The station works on a snapshot of the files that it uses,
and each change of the snapshot is written through at once.
-/

namespace FieldLogger.Host

/-! ### Files -/

/-- The absolute path of a location. -/
def pathOf (l : Location) : String := "/" ++ String.intercalate "/" l

/-- What the host has at a location. -/
def nodeOnHost? (l : Location) : IO (Option DiskNode) := do
  let path := (← IO.currentDir) / pathOf l
  if ← path.isDir then return some .directory
  else if ← path.pathExists then return some (.file (← IO.FS.readBinFile path).toList)
  else return none

/-- Takes a location and the directories above it into the snapshot. -/
def survey (d : Disk) (l : Location) : IO Disk :=
  (List.range l.length).foldlM (fun d i => do
    let above := l.take (i + 1)
    match ← nodeOnHost? above with
    | some n => return d.setNode above n
    | none => return d) d

/-- The location of a path whose `..` are followed by name. -/
def locationOf (d : Disk) (path : String) : Location :=
  let r := Route.parse path
  r.segments.foldl (fun l s => if s == "." then l else if s == ".." then l.dropLast else l ++ [s]) (d.start r)

/-- Takes a directory and the files in it into the snapshot. -/
def surveyDirectory (d : Disk) (l : Location) : IO Disk := do
  let d ← survey d l
  match d.node? l with
  | some .directory =>
    let entries ← ((← IO.currentDir) / pathOf l).readDir
    entries.toList.foldlM (fun d e => survey d (l ++ [e.fileName])) d
  | _ => return d

/-- Sends bytes to an open file that had `kept` bytes, and tells how far the host came if it failed. -/
def writeAll (handle : IO.FS.Handle) (l : Location) (kept : Nat) (bytes : Bytes) : IO HostFaults := do
  try
    handle.write bytes.toByteArray
    handle.flush
    return .none
  catch e =>
    let size := (← ((← IO.currentDir) / pathOf l).metadata).byteSize.toNat
    return { HostFaults.none with writing := some ⟨size - kept, toString e⟩ }

/-- Writes bytes into a file, after `kept` bytes that it has or in place of them all, and tells what the host failed
at. -/
def writeThrough (l : Location) (kept : Nat) (bytes : Bytes) : IO HostFaults := do
  try
    let handle ← IO.FS.Handle.mk (pathOf l) (if kept == 0 then .write else .append)
    writeAll handle l kept bytes
  catch e => return { HostFaults.none with opening := some (toString e) }

/-- Carries out on the host what changed from one snapshot to the next, and tells what the host failed at first; `adds`
says that files are added to at their ends. -/
def carryOut (adds : Bool) (old new : Disk) : IO HostFaults :=
  new.nodes.foldlM (fun faults (l, n) => do
    if old.node? l == some n then return faults
    match n with
    | .directory =>
      IO.FS.createDirAll (pathOf l)
      return faults
    | .file contents =>
      let before := if adds then (old.contents? l).getD [] else []
      let met ← writeThrough l before.length (contents.drop before.length)
      return if faults == .none then met else faults) .none

/-! ### Clocks, sensors and the serial line -/

/-- The wall clock of the host. -/
def wallClock : IO Instant := do
  let now ← Std.Time.PlainDateTime.now
  let year := now.date.year.toInt
  let time := (now.time.hour.toInt * 3600 + now.time.minute.toInt * 60 + now.time.second.toInt) * Instant.perSecond
  match Date.of? year now.date.month.toInt.toNat now.date.day.toInt.toNat with
  | some date => return Instant.ofDate date + time + now.time.nanosecond.toInt
  | none => return time

/-- The temperatures that the host measures of itself, in degrees. -/
def hostTemperatures : IO (List Binary32) := do
  let root := (← IO.currentDir) / "/sys/class/hwmon"
  if !(← root.isDir) then return []
  let mut readings := []
  for chip in ← root.readDir do
    for file in ← chip.path.readDir do
      if file.fileName.startsWith "temp" && file.fileName.endsWith "_input" then
        let text ← try IO.FS.readFile file.path catch _ => pure ""
        if let some thousandths := text.trimAscii.toString.toInt? then
          readings := readings ++ [Binary32.ofRatio thousandths 1000]
  return readings

/-- The simulated sensors of humidity, rain and wind. -/
structure Weather where
  humidity : SimulatedWeather
  rain : SimulatedWeather
  wind : SimulatedWeather

def Weather.ofSeed (seed : UInt64) : Weather := ⟨.ofSeed seed, .ofSeed (seed + 1), .ofSeed (seed + 2)⟩

def Weather.read (w : Weather) : IO (Sample × Weather) := do
  let (humidity, humidityNext) := w.humidity.readHumidity
  let (rain, rainNext) := w.rain.readRain
  let (wind, windNext) := w.wind.readWind
  let temperature := Binary32.hottest (← hostTemperatures)
  return (⟨temperature, some humidity, some rain, some wind⟩, ⟨humidityNext, rainNext, windNext⟩)

/-- The bytes of an input up to and with its next newline, or up to its end, after those read before. -/
partial def nextBytes (input : IO.FS.Stream) (before : ByteArray) : IO Bytes := do
  let byte ← input.read 1
  if byte.isEmpty || byte.toList == [10] then return (before ++ byte).toList
  nextBytes input (before ++ byte)

/-- Goes round with the reader of the line until it ends. An input that cannot be read is at its end. -/
partial def readLines (input : IO.FS.Stream) (line : IO.Ref Serial.Line) : IO Unit := do
  let bytes ← try nextBytes input .empty catch _ => pure []
  let isOpen ← line.modifyGet fun l =>
    let l := (l.feed bytes).round
    (l.isOpen, l)
  if isOpen then readLines input line

/-- Asks for a line until the host has counted so many milliseconds. -/
partial def awaitLine (line : IO.Ref Serial.Line) (endMs : Nat) : IO (Option String) := do
  match ← line.modifyGet (·.receive) with
  | .line text => return some text
  | .timeout | .closed =>
    if endMs ≤ (← IO.monoMsNow) then return none
    IO.sleep 1
    awaitLine line endMs

/-! ### The network -/

abbrev Socket := Std.Async.TCP.Socket.Client

/-- The host's side of a post. -/
inductive Peer where
  | absent
  | connecting (socket : Std.Async.AsyncTask Socket)
  /-- Connected, with the bytes that are being sent and those that come next. -/
  | connected (socket : Socket) (sending : Std.Async.AsyncTask Unit)
      (receiving : Std.Async.AsyncTask (Option ByteArray))

/-- The transport over the host, and what has happened on its stream so far. -/
structure Wiring where
  transport : Http.Transport
  wire : Http.Wire
  peer : Peer

namespace Wiring

def idle : Wiring := ⟨.idle, ⟨[], [], []⟩, .absent⟩

/-- The most bytes that are read at once. -/
def readSize : UInt64 := 512

/-- The most bytes that are taken at once for sending. -/
def sendSize : Nat := 65536

/-- Looks up the host of an address and connects to it. -/
def connect (a : Http.Address) : Std.Async.Async Socket := do
  let found ← Std.Async.DNS.getAddrInfo a.host (toString a.port.toNat)
  match found.toList with
  | [] => throw (.userError (a.host ++ " sem endereço"))
  | ip :: _ =>
    let socket ← Std.Async.TCP.Socket.Client.mk
    socket.connect (match ip with
      | .v4 addr => .v4 ⟨addr, a.port⟩
      | .v6 addr => .v6 ⟨addr, a.port⟩)
    return socket

def start (url body : String) : IO (Except NetworkError Unit × Wiring) := do
  let (started, transport) := Http.Transport.start url body
  match Http.Address.parse url with
  | .error _ => return (started, { idle with transport })
  | .ok a => return (started, { idle with transport, peer := .connecting (← (connect a).toIO) })

/-- Takes in what the host has done since the last poll: the stream takes more once it has sent what it took. -/
def gather (w : Wiring) : IO Wiring := do
  match w.peer with
  | .absent => return w
  | .connecting socket =>
    if (← socket.getState) != .finished then return w
    try
      let socket ← socket.block
      let peer := .connected socket (.pure ()) (← (socket.recv? readSize).toIO)
      return ⟨w.transport.settle .established, { w.wire with acceptances := [.taken sendSize] }, peer⟩
    catch e => return { w with transport := w.transport.settle (.refused (toString e)), peer := .absent }
  | .connected socket sending receiving =>
    let acceptance ←
      if (← sending.getState) != .finished then pure .blocked
      else
        try
          sending.block
          pure (Http.Acceptance.taken sendSize)
        catch e => pure (.failed (toString e))
    let w := { w with wire := { w.wire with acceptances := [acceptance] } }
    if (← receiving.getState) != .finished then return w
    let (arrival, peer) ←
      try
        match ← receiving.block with
        | some data => pure (.data data.toList, .connected socket sending (← (socket.recv? readSize).toIO))
        | none => pure (Http.Arrival.ended, w.peer)
      catch e => pure (.failed (toString e), w.peer)
    return { w with wire := { w.wire with arrivals := w.wire.arrivals ++ [arrival] }, peer }

/-- Polls the transport, and sends what it wrote. -/
def poll (w : Wiring) : IO (PostStatus × Wiring) := do
  let w ← w.gather
  let (status, transport, wire) := w.transport.poll w.wire
  let written := wire.sent.drop w.wire.sent.length
  match w.peer with
  | .connected socket _ receiving =>
    if written.isEmpty then return (status, { w with transport, wire })
    let sending ← (socket.send written.toByteArray).toIO
    return (status, ⟨transport, wire, .connected socket sending receiving⟩)
  | peer => return (status, ⟨transport, wire, peer⟩)

/-- Lets the stream go; one that is gone already stays so. -/
def release (w : Wiring) : IO Unit := do
  match w.peer with
  | .connected socket _ _ =>
    try
      socket.native.cancelRecv
      socket.shutdown.block
    catch _ => pure ()
  | _ => return

end Wiring

/-- What the client works with on the host. -/
def link (wiring : IO.Ref Wiring) (ticks : IO UInt64) : Link IO where
  start url body := do
    let (started, w) ← Wiring.start url body
    wiring.set w
    return started
  poll := do
    let (status, w) ← (← wiring.get).poll
    wiring.set w
    return status
  abort := wiring.modify fun w => { w with transport := w.transport.abort }
  ticks
  pause := IO.sleep 1

/-! ### The loop -/

/-- The station with what it is connected to. -/
structure Machine where
  station : Startup.OnDisk
  clock : RunningClock
  weather : Weather
  /-- When ticks began, in milliseconds. -/
  startedMs : Nat

/-- The ticks since they began. -/
def ticksNow (m : Machine) : IO Nat := return ((← IO.monoMsNow) - m.startedMs) / m.station.tickMs.toNat

/-- Lets the ticks pass that are due. -/
def catchUp (m : Machine) : IO Machine := do
  return { m with station := m.station.ticks ((← ticksNow m) - m.station.scheduler.ticks.toNat) }

/-- Shows the station the time, and keeps a time that its operator sets. -/
def atTime (m : Machine) (act : Startup.OnDisk → IO Startup.OnDisk) : IO Machine := do
  let shown := (m.clock.now (← wallClock)).clock
  let station ← act { m.station with session := { m.station.session with clock := shown } }
  let set := station.session.clock
  if set == shown then return { m with station }
  else
    let target := Instant.ofDate set.date + Instant.ofTime set.time
    return { m with station, clock := .standingAt target (← wallClock) }

/-- Shows the station the weather if it is about to measure. -/
def observe (m : Machine) : IO Machine := do
  if m.station.scheduler.tasks.any (·.pending) then
    let (air, weather) ← m.weather.read
    return { m with station := { m.station with air }, weather }
  else return m

/-- The station on a host that fails at these. -/
def failing (s : Startup.OnDisk) (internal external : HostFaults) : Startup.OnDisk :=
  { s with session.mediator.store.faults := internal, logger.store.faults := external }

/-- The tasks of a round that stay on the device. What they write is tried out on the snapshot and then written on the
host; if the host fails at that, they go again on stores that fail in the same way. Only a typed line writes inside the
station, and only a record that waits is added outside. -/
def iterateLocally (s : Startup.OnDisk) (line : Option String) : IO Startup.OnDisk := do
  let configured := s.configurationTask line
  let internal ←
    if line.isNone then pure .none
    else carryOut false s.session.mediator.store.disk configured.session.mediator.store.disk
  let measured := ((failing s internal .none).configurationTask line).measurementTask
  let external ←
    if measured.logger.slot.pending.isNone then pure .none
    else carryOut true s.logger.store.disk measured.loggerTask.logger.store.disk
  return failing ((failing s internal external).iterateLocally line) .none .none

/-- Sends the measurement that waits, if there is one. -/
def transmit (m : Machine) (s : Startup.OnDisk) : IO Startup.OnDisk := do
  match s.uplink with
  | none => return s
  | some u =>
    let wiring ← IO.mkRef Wiring.idle
    let posted ← u.postOn (link wiring (UInt64.ofNat <$> ticksNow m)) UInt64.size
    (← wiring.get).release
    match posted with
    | some (_, uplink) => return { s with uplink := some uplink }
    | none => return s

/-- One round of the loop with its effects on the host. -/
def goRound (m : Machine) (line : Option String) : IO Machine := do
  let m ← observe (← catchUp m)
  atTime m fun s => do
    let s ← iterateLocally s line
    let (text, terminal) := s.session.terminal.takeConsole
    IO.print text
    (← IO.getStdout).flush
    transmit m { s with session.terminal := terminal }

/-- Goes round for ever, waiting one tick for a line in each round. -/
partial def loop (m : Machine) (line : IO.Ref Serial.Line) : IO Unit := do
  let typed ← awaitLine line ((← IO.monoMsNow) + m.station.tickMs.toNat)
  loop (← goRound m typed) line

/-- Runs a station that has booted. -/
def runStation (station : Startup.OnDisk) (seed : UInt64) : IO Unit := do
  let (text, terminal) := station.session.terminal.takeConsole
  IO.print text
  (← IO.getStdout).flush
  let line ← IO.mkRef (Serial.Line.ofInput [])
  discard (IO.asTask (readLines (← IO.getStdin) line) .dedicated)
  let station := { station with session := { station.session with terminal } }
  loop ⟨station, .unset, .ofSeed seed, ← IO.monoMsNow⟩ line

/-- The snapshot of the files that a configuration names. -/
def surveyConfigured (d : Disk) (c : Config) : IO Disk := do
  let d ← surveyDirectory d (locationOf d c.internalDir)
  let d ← survey d (locationOf d (joinPath c.internalDir c.metadataFile))
  surveyDirectory d (locationOf d c.externalDir)

end FieldLogger.Host

/-- Starts the program in the directory it is run from, with the configuration beside the executable. -/
def main : IO UInt32 := do
  let segments (path : String) : FieldLogger.Location := (FieldLogger.Route.parse path).segments
  let home := (segments (← IO.appPath).toString).dropLast
  let start := FieldLogger.Disk.ofWorkingDirectory (segments (← IO.currentDir).toString)
  let d ← FieldLogger.Host.survey start (FieldLogger.Startup.configLocation home)
  let d ← FieldLogger.Host.surveyConfigured d (FieldLogger.Startup.loadConfig d home)
  let clock := (← FieldLogger.Host.wallClock).clock
  match FieldLogger.Startup.run d home ⟨clock, .full, .none, some (.refused .noData)⟩ with
  | .ended errors terminal after =>
    discard (FieldLogger.Host.carryOut false d after)
    IO.print terminal
    errors.forM fun e => IO.print ("ERROR " ++ e.line ++ "\n" ++ e.tail)
    return FieldLogger.Startup.exitCode.toUInt32
  | .running _ station =>
    discard (FieldLogger.Host.carryOut false d station.logger.store.disk)
    FieldLogger.Host.runStation station (UInt64.ofNat (← IO.monoNanosNow))
    return 0
