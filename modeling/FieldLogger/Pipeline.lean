import FieldLogger.Sensor

/-!
The measurement pipeline: read the sensors, write the record of the measurement, tell the observers. The record
is one line of six fields between semicolons. Observers are told in the order of their registration; a slot is
the in-tray of one of them and keeps the last record until it is taken.
-/

namespace FieldLogger

/-- Why the pipeline refuses. -/
inductive PipelineError where
  | observerCapacity
  | recordTooLong (bytes : Nat)
  deriving DecidableEq, Repr

/-! ### Records -/

/-- A reading in its field; an absent one leaves the field empty. -/
def Sample.field {α : Type} (chars : α → List Char) (reading : Option α) : List Char :=
  (reading.map chars).getD []

def Sample.layoutVersion : Nat := 1

/-- The line of a measurement: layout, time stamp, temperature, humidity, rain and wind. -/
def Sample.record (s : Sample) (timestamp : String) : String :=
  String.ofList <|
    Text.numeral Sample.layoutVersion ++ ';' :: timestamp.toList ++
    ';' :: Sample.field Binary32.chars s.temperature ++
    ';' :: Sample.field (fun h => Text.numeral h.toNat) s.humidity ++
    ';' :: Sample.field (fun r => Text.numeral r.toNat) s.rain ++
    ';' :: Sample.field (fun w => Text.numeral w.toNat) s.wind ++ ['\n']

/-! ### Slots -/

/-- The in-tray of an observer. -/
structure Slot where
  pending : Option String
  deriving DecidableEq, Repr

namespace Slot

def empty : Slot := ⟨none⟩

/-- A record waits to be taken. -/
def hasData (s : Slot) : Bool := s.pending.isSome

/-- Puts a record in place of the one that waits. -/
def put (_ : Slot) (record : String) : Slot := ⟨some record⟩

/-- The record that waits, and the slot without it. -/
def take (s : Slot) : Option String × Slot := (s.pending, empty)

end Slot

/-! ### The pipeline -/

/-- The sensors, the observers by name, and the last measurement with its record. -/
structure Pipeline (ι : Type) where
  bank : SensorBank
  observers : List ι
  sample : Sample
  timestamp : String
  /-- The last record that was written. -/
  mailbox : Option String
  deriving DecidableEq, Repr

namespace Pipeline
variable {ι : Type}

def maxObservers : Nat := 10

def maxRecordBytes : Nat := 1024

/-- A pipeline that has not measured and has no observers. -/
def ofBank (bank : SensorBank) : Pipeline ι := ⟨bank, [], .none, "", none⟩

/-- Registers an observer; the same one may be registered again. -/
def observe (p : Pipeline ι) (observer : ι) : Except PipelineError (Pipeline ι) :=
  if maxObservers ≤ p.observers.length then .error .observerCapacity
  else .ok { p with observers := p.observers ++ [observer] }

/-- Reads the sensors at the time that the stamp tells. -/
def measure (p : Pipeline ι) (timestamp : String) (air : Sample) : Pipeline ι :=
  { p with timestamp, sample := p.bank.read air }

/-- Writes the record of the last measurement, unless it is too long. -/
def format (p : Pipeline ι) : Except PipelineError (String × Pipeline ι) :=
  let record := p.sample.record p.timestamp
  if maxRecordBytes < record.utf8ByteSize then .error (.recordTooLong record.utf8ByteSize)
  else .ok (record, { p with mailbox := some record })

/-- The observers to tell, in order, each with the record; none while there is no record. -/
def deliveries (p : Pipeline ι) : List (ι × String) :=
  match p.mailbox with
  | none => []
  | some record => p.observers.map fun o => (o, record)

/-- Measures, writes the record and tells the observers; a record that is too long leaves the last one and
tells nobody. -/
def cycle (p : Pipeline ι) (timestamp : String) (air : Sample) :
    Except PipelineError (List (ι × String)) × Pipeline ι :=
  let p := p.measure timestamp air
  match p.format with
  | .error e => (.error e, p)
  | .ok (_, p) => (.ok p.deliveries, p)

end Pipeline

def PipelineError.message : PipelineError → String
  | .observerCapacity => s!"Limite de observadores atingido ({Pipeline.maxObservers})"
  | .recordTooLong bytes => s!"Registro excede a mailbox ({bytes} bytes, máximo {Pipeline.maxRecordBytes})"

/-! ### A row of slots -/

/-- Slots known by their position. -/
structure SlotRow where
  slots : List Slot
  deriving DecidableEq, Repr

namespace SlotRow

def empty : SlotRow := ⟨[]⟩

/-- One more slot, at the end. -/
def add (r : SlotRow) : SlotRow := ⟨r.slots ++ [.empty]⟩

/-- The slot at a position; a position beyond the row is empty. -/
def slot (r : SlotRow) (i : Nat) : Slot := r.slots.getD i .empty

/-- Puts each record into the slot that it is for. -/
def deliver (r : SlotRow) (deliveries : List (Nat × String)) : SlotRow :=
  ⟨deliveries.foldl (fun slots d => slots.modify d.1 (·.put d.2)) r.slots⟩

/-- Takes the record out of a slot. -/
def take (r : SlotRow) (i : Nat) : Option String × SlotRow :=
  ((r.slot i).take.1, ⟨r.slots.modify i fun s => s.take.2⟩)

end SlotRow
end FieldLogger
