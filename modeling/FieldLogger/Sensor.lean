import FieldLogger.Binary32

/-!
The sensors of the station. A sample has a reading of each sensor that is fitted and answers; the others leave
their place empty.
-/

namespace FieldLogger

/-- The readings of one measurement. -/
structure Sample where
  /-- In degrees. -/
  temperature : Option Binary32
  /-- Relative, in percent. -/
  humidity : Option UInt8
  /-- In millimetres since the last reading. -/
  rain : Option UInt16
  /-- In metres per second. -/
  wind : Option UInt16
  deriving DecidableEq, Repr

def Sample.none : Sample := ⟨.none, .none, .none, .none⟩

/-- The sensors that are fitted. -/
structure SensorBank where
  thermometer : Bool
  hygrometer : Bool
  pluviometer : Bool
  anemometer : Bool
  deriving DecidableEq, Repr

namespace SensorBank

def full : SensorBank := ⟨true, true, true, true⟩

def size (b : SensorBank) : Nat :=
  b.thermometer.toNat + b.hygrometer.toNat + b.pluviometer.toNat + b.anemometer.toNat

/-- What the fitted sensors answer, where `air` is what each would answer. -/
def read (b : SensorBank) (air : Sample) : Sample where
  temperature := if b.thermometer then air.temperature else none
  humidity := if b.hygrometer then air.humidity else none
  rain := if b.pluviometer then air.rain else none
  wind := if b.anemometer then air.wind else none

end SensorBank
end FieldLogger
