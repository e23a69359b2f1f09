import FieldLogger.Registry
import FieldLogger.Terminal.Screen

/-!
A terminal session: three screens, the field that waits for a value, and the record as edited so far. Edits
change that copy only; it reaches the stored record when it is saved through the mediator. The time and date
are set at once. A transition leaves the old screen and enters the new one within the same call.

    deviceInfo ── B ──▶ start ── C ──▶ deviceConfig
    deviceInfo ◀── I ── start ◀── B ── deviceConfig
-/

namespace FieldLogger

/-- The screen that is active. -/
inductive ScreenName where
  | start
  | deviceInfo
  | deviceConfig
  deriving DecidableEq, Repr

/-- What a screen made of a signal. -/
inductive Outcome where
  | handled
  | ignored
  | transition
  deriving DecidableEq, Repr

/-- The terminal by itself. -/
structure Terminal where
  screen : ScreenName
  /-- The field that waits for a value. -/
  pending : Option Field
  /-- The record as edited and not yet saved. -/
  staged : Metadata
  /-- What was printed and not yet taken away. -/
  console : String
  deriving DecidableEq, Repr

namespace Terminal

/-- A terminal that edits from the given record. -/
def ofMetadata (m : Metadata) : Terminal := ⟨.start, none, m, ""⟩

def print (t : Terminal) (text : String) : Terminal := { t with console := t.console ++ text }

/-- Adds one line to the console. -/
def say (t : Terminal) (line : String) : Terminal := t.print (line ++ "\r\n")

/-- Starts over on a screen and prints the banner. -/
def init (t : Terminal) (screen : ScreenName) : Terminal :=
  { t with screen, pending := none }.print Screen.banner

def exit (t : Terminal) : Terminal := { t with pending := none }.print Screen.clear

/-- What was printed, and the terminal without it. -/
def takeConsole (t : Terminal) : String × Terminal := (t.console, { t with console := "" })

end Terminal

/-- A terminal with the clock it sets and the mediator it asks. -/
structure Session (μ : Type) where
  terminal : Terminal
  clock : Clock
  mediator : μ
  deriving DecidableEq, Repr

namespace Session
variable {μ : Type}

/-- Changes the terminal of the session. -/
def withTerminal (s : Session μ) (f : Terminal → Terminal) : Session μ := { s with terminal := f s.terminal }

/-- Adds one line to the console. -/
def say (s : Session μ) (line : String) : Session μ := s.withTerminal (·.say line)

def edit (s : Session μ) (f : Metadata → Metadata) : Session μ :=
  s.withTerminal fun t => { t with staged := f t.staged }

def goTo (s : Session μ) (screen : ScreenName) : Outcome × Session μ :=
  (.transition, s.withTerminal fun t => { t with screen })

/-- Sets the date and then the time of a clock. A date that was set stays where the time is then refused. -/
def setClock (c : Clock) (dt : TimeAndDate) : Except EntryError Unit × Clock :=
  match c.setDate dt.day dt.month dt.year with
  | .error e => (.error e, c)
  | .ok dated =>
    match dated.setTime dt.hour dt.minute dt.second with
    | .error e => (.error e, dated)
    | .ok set => (.ok (), set)

/-- Changes the record being edited by a value that was accepted. -/
def stage {α : Type} (s : Session μ) (value : Except EntryError α) (put : α → Metadata → Metadata) :
    Except EntryError Unit × Session μ :=
  match value with
  | .error e => (.error e, s)
  | .ok v => (.ok (), s.edit (put v))

/-- Puts a typed value into a field of the record being edited, or sets the clock. -/
def applyField (s : Session μ) (field : Field) (input : String) : Except EntryError Unit × Session μ :=
  match field with
  | .name => s.stage (Entry.name input) fun name m => { m with name }
  | .timeAndDate =>
    match Entry.timeAndDate input with
    | .error e => (.error e, s)
    | .ok dt => ((setClock s.clock dt).1, { s with clock := (setClock s.clock dt).2 })
  | .filePeriod => s.stage (Entry.filePeriod input) fun filePeriod m => { m with filePeriod }
  | .measurement => s.stage (Entry.minutes input) fun measurement m => { m with measurement }
  | .transmission => s.stage (Entry.minutes input) fun transmission m => { m with transmission }
  | .report => s.stage (Entry.minutes input) fun report m => { m with report }

/-- A line while a field waits for a value. -/
def enterField (s : Session μ) (field : Field) : Option String → Session μ
  | none => s.say "Dado inválido, digite novamente"
  | some input =>
    match s.applyField field input with
    | (.ok (), s) => (s.say (Screen.taken field)).withTerminal fun t => { t with pending := none }
    | (.error e, s) => s.say ("Dado inválido (" ++ e.message ++ "), digite novamente")

/-- A line on the configuration screen. -/
def enter (s : Session μ) (payload : Option String) : Outcome × Session μ :=
  match s.terminal.pending with
  | none => (.ignored, s.say "Selecione um campo antes de digitar um valor")
  | some field => (.handled, s.enterField field payload)

variable [Mediator μ]

def ask (s : Session μ) (notice : Notice) : Reply × Session μ :=
  let (reply, mediator) := Mediator.notify s.mediator .terminal notice
  (reply, { s with mediator })

def refresh (s : Session μ) : Option Metadata × Session μ :=
  match s.ask .refresh with
  | (.refreshed m, s) => (some m, s)
  | (_, s) => (none, s)

/-- Shows the record and the clock; the record being edited stands in for one that cannot be read. -/
def showInfo (s : Session μ) : Session μ :=
  match s.refresh with
  | (some m, s) => s.withTerminal (·.print (Screen.deviceInfo m s.clock))
  | (none, s) =>
    (s.say "Erro ao ler metadados do armazenamento").withTerminal
      fun t => t.print (Screen.deviceInfo t.staged s.clock)

/-- Starts editing from the stored record, where it can be read, and shows the fields. -/
def showConfig (s : Session μ) : Session μ :=
  let s := match s.refresh with
    | (some m, s) => s.edit fun _ => m
    | (none, s) => s
  s.withTerminal fun t => t.print (Screen.configHelp t.staged)

/-- Hands the edited record over to be stored. -/
def save (s : Session μ) : Session μ :=
  let s := s.say "Gravando configuração na memória..."
  let (reply, s) := s.ask (.commit s.terminal.staged.toRecord)
  s.say (if reply.isSuccess then "Configuração salva!" else "Erro ao gravar na memória")

/-- What the screen `screen` makes of a signal. -/
def dispatch (s : Session μ) (screen : ScreenName) (signal : Signal) (payload : Option String) :
    Outcome × Session μ :=
  match screen, signal with
  | _, .leave => (.handled, s.withTerminal (·.exit))
  | .start, .entry => (.handled, s.withTerminal (·.print Screen.help))
  | .start, .key .info => s.goTo .deviceInfo
  | .start, .key .config => s.goTo .deviceConfig
  | .start, _ => (.ignored, s)
  | .deviceInfo, .entry => (.handled, s.showInfo)
  | .deviceInfo, .key .back => s.goTo .start
  | .deviceInfo, _ => (.ignored, s)
  | .deviceConfig, .entry => (.handled, s.showConfig)
  | .deviceConfig, .key .back => s.goTo .start
  | .deviceConfig, .key (.edit field) =>
    (.handled, s.withTerminal fun t => { t with pending := some field }.say (Screen.prompt field))
  | .deviceConfig, .key .save => (.handled, s.save)
  | .deviceConfig, .key .info => (.ignored, s)
  | .deviceConfig, .key .config => (.ignored, s)
  | .deviceConfig, .enter => s.enter payload

/-- Gives a signal to the active screen and carries out the transition that it asks for. -/
def handle (s : Session μ) (signal : Signal) (payload : Option String) : Outcome × Session μ :=
  let here := s.terminal.screen
  match s.dispatch here signal payload with
  | (.transition, s) =>
    let next := s.terminal.screen
    let s := (s.dispatch here .leave none).2
    (.transition, (s.dispatch next .entry none).2)
  | answer => answer

/-- Gives a typed line to the active screen. -/
def typeLine (s : Session μ) (line : String) : Outcome × Session μ :=
  let (signal, payload) := Signal.ofLine line
  s.handle signal payload

/-- Starts over on a screen and prints the banner. -/
def init (s : Session μ) (screen : ScreenName) : Session μ := s.withTerminal (·.init screen)

/-- A session that edits from a record and shows the first screen. -/
def start (m : Metadata) (clock : Clock) (mediator : μ) : Outcome × Session μ :=
  let s : Session μ := ⟨.ofMetadata m, clock, mediator⟩
  (s.init .start).handle .entry none

end Session
end FieldLogger
