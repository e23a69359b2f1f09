import FieldLogger.Text.Blank
import FieldLogger.Text.Numeral
import FieldLogger.Text.Utf8

/-!
The device record: the name of the device, how often it starts a new measurement file, and its three
periods in minutes. It is stored as one line of five fields between semicolons. Reading is tolerant: each
field that is present and valid replaces the value at its own position and leaves the others alone.
-/

namespace FieldLogger

/-! ### File periods -/

/-- How often a new measurement file is started. -/
inductive FilePeriod where
  | daily
  | weekly
  | monthly
  | yearly
  | once
  deriving DecidableEq, Repr

namespace FilePeriod

/-- The code of the period in the record. -/
def code : FilePeriod → Nat
  | daily => 0
  | weekly => 1
  | monthly => 2
  | yearly => 3
  | once => 4

def ofCode? : Nat → Option FilePeriod
  | 0 => some daily
  | 1 => some weekly
  | 2 => some monthly
  | 3 => some yearly
  | 4 => some once
  | _ => none

/-- The period as the terminal shows it. -/
def label : FilePeriod → String
  | daily => "diário"
  | weekly => "semanal"
  | monthly => "mensal"
  | yearly => "anual"
  | once => "arquivo único"

theorem ofCode?_code (p : FilePeriod) : ofCode? p.code = some p := by cases p <;> rfl

end FilePeriod

/-! ### The record -/

/-- What the device remembers of its configuration. -/
structure Metadata where
  name : String
  filePeriod : FilePeriod
  /-- Minutes between transmissions. -/
  transmission : UInt32
  /-- Minutes between measurements. -/
  measurement : UInt32
  /-- Minutes between reports. -/
  report : UInt32
  deriving DecidableEq, Repr

/-- Why a text is no record. -/
inductive RecordError where
  /-- It has fewer fields than a record needs. -/
  | tooFewFields (found : Nat)
  deriving DecidableEq, Repr

namespace Metadata

/-- The most bytes of UTF-8 that a name takes. -/
def maxNameBytes : Nat := 95

/-- The longest period in minutes that can be typed: one week. -/
def maxMinutes : Nat := 10080

/-- The number of fields of a whole record. -/
def fieldCount : Nat := 5

/-- The fewest fields of a record. -/
def minFieldCount : Nat := 1

/-- The record of a device that has none of its own. -/
def factory : Metadata := ⟨"defaultLogger", .weekly, 1, 1, 1⟩

instance : Inhabited Metadata := ⟨factory⟩

/-- The five fields in order, as characters. -/
def recordChars (m : Metadata) : List Char :=
  m.name.toList ++ ';' :: Text.numeral m.filePeriod.code ++ ';' :: Text.numeral m.transmission.toNat ++
    ';' :: Text.numeral m.measurement.toNat ++ ';' :: Text.numeral m.report.toNat

/-- The line that is stored, without its end. -/
def toRecord (m : Metadata) : String := String.ofList m.recordChars

/-! ### Reading a record -/

/-- The line that a text starts with: up to a newline or NUL, without carriage returns at its end. -/
def recordLine (cs : List Char) : List Char :=
  Text.dropWhileEnd (· == '\r') (cs.takeWhile fun c => c != '\n' && c != '\x00')

/-- The fields of a line; a blank line has none, and what follows the fifth is left out. -/
def recordFields (line : List Char) : List (List Char) :=
  if (Text.trim line).isEmpty then [] else (Text.splitAt ';' line).take fieldCount

/-- The name in a field, cut to the bytes that a name may take; a blank field keeps the old one. -/
def readName (old : String) (field : List Char) : String :=
  let name := Text.trim field
  if name.isEmpty then old else String.ofList (Utf8.takeBytes maxNameBytes name)

/-- The file period whose code a field holds. -/
def readFilePeriod (old : FilePeriod) (field : List Char) : FilePeriod :=
  ((Text.unsigned? UInt8.size (Text.trim field)).bind FilePeriod.ofCode?).getD old

/-- The minutes that a field holds. -/
def readMinutes (old : UInt32) (field : List Char) : UInt32 :=
  ((Text.unsigned? UInt32.size (Text.trim field)).map UInt32.ofNat).getD old

/-- Replaces each value by the field at its position, where that is present and valid. -/
def applyFields (m : Metadata) (fields : List (List Char)) : Metadata where
  name := (fields[0]?.map (readName m.name)).getD m.name
  filePeriod := (fields[1]?.map (readFilePeriod m.filePeriod)).getD m.filePeriod
  transmission := (fields[2]?.map (readMinutes m.transmission)).getD m.transmission
  measurement := (fields[3]?.map (readMinutes m.measurement)).getD m.measurement
  report := (fields[4]?.map (readMinutes m.report)).getD m.report

/-- Applies the record that a text starts with: the number of its fields and the changed metadata. -/
def applyRecord (m : Metadata) (record : String) : Except RecordError (Nat × Metadata) :=
  let fields := recordFields (recordLine record.toList)
  if fields.length < minFieldCount then .error (.tooFewFields fields.length)
  else .ok (fields.length, m.applyFields fields)

/-- The metadata of a record on its own, other values being those of `factory`. -/
def ofRecord (record : String) : Except RecordError Metadata :=
  (factory.applyRecord record).map (·.2)

end Metadata

def RecordError.message : RecordError → String
  | .tooFewFields found => s!"Registro com poucos campos ({found}, mínimo {Metadata.minFieldCount})"

end FieldLogger
