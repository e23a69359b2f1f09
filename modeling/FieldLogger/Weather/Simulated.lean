import FieldLogger.Sensor
import FieldLogger.Weather.KeyStream

/-!
Simulated weather: temperature and humidity walk at random within bounds, rain falls in one measurement out of
five, and the wind is drawn anew. Each reading draws from one stream, so a seed and the order of the readings
determine all of them.
-/

namespace FieldLogger

/-- A weather station without sensors. -/
structure SimulatedWeather where
  stream : KeyStream
  temperature : Binary32
  humidity : Binary32
  deriving DecidableEq, Repr

namespace SimulatedWeather
open Binary32

/-- The weather of a seed: it starts at 22 degrees and 55 percent. -/
def ofSeed (seed : UInt64) : SimulatedWeather := ⟨.ofSeed seed, ofRatio 22 1, ofRatio 55 1⟩

/-! ### Drawing from ranges -/

/-- The largest number below 1 that is drawn. -/
def largestDraw : Binary32 := ofRatio 0x7FFFFF 0x800000

/-- A scale that keeps the largest draw within `high`, found by going down from the given one. -/
def fitScale (low high : Binary32) : Nat → Binary32 → Binary32
  | 0, scale => scale
  | n + 1, scale =>
    if high.value < (add (mul scale largestDraw) low).value then fitScale low high n ⟨scale.bits - 1⟩
    else scale

/-- The most steps down that a scale is looked for: the first scale is the quotient rounded, so it is at most
a few patterns too large. -/
def scaleSteps : Nat := 8

/-- A number from `low` to `high`, both included. -/
def drawNumber (low high : Binary32) (k : KeyStream) : Binary32 × KeyStream :=
  let scale := fitScale low high scaleSteps (div (add high (neg low)) largestDraw)
  let (word, k) := k.next32
  (add (mul (ofRatio (word >>> 9).toNat 0x800000) scale) low, k)

/-- The most words that are drawn for one whole number; each is refused with a chance below one in `2 ^ 16`. -/
def drawTries : Nat := 64

/-- A whole number below `range`: the high half of a word times `range`, where words whose low half would
favour some numbers are refused. -/
def drawBelow (range : Nat) : Nat → KeyStream → Nat × KeyStream
  | 0, k => (0, k)
  | tries + 1, k =>
    let zone := UInt32.size - 1 - (UInt32.size - range) % range
    let (word, k) := k.next32
    let product := word.toNat * range
    if product % UInt32.size ≤ zone then (product / UInt32.size, k) else drawBelow range tries k

/-- A whole number from `low` to `high`, both included. -/
def drawWhole (low high : Nat) (k : KeyStream) : UInt16 × KeyStream :=
  let (n, k) := drawBelow (high - low + 1) drawTries k
  (UInt16.ofNat (low + n), k)

/-! ### Readings -/

/-- Half a degree more or less, from -40 to 85 degrees. -/
def readTemperature (w : SimulatedWeather) : Binary32 × SimulatedWeather :=
  let (change, stream) := drawNumber (ofRatio (-1) 2) (ofRatio 1 2) w.stream
  let temperature := clamp (add w.temperature change) (ofRatio (-40) 1) (ofRatio 85 1)
  (temperature, { w with stream, temperature })

/-- Two percent more or less, from 0 to 100 percent, in whole percents. -/
def readHumidity (w : SimulatedWeather) : UInt8 × SimulatedWeather :=
  let (change, stream) := drawNumber (ofRatio (-2) 1) (ofRatio 2 1) w.stream
  let humidity := clamp (add w.humidity change) (ofRatio 0 1) (ofRatio 100 1)
  (UInt8.ofNat humidity.roundHalfUp, { w with stream, humidity })

/-- Draws below this leave a measurement dry: four fifths of all 64-bit draws. -/
def dryBelow : UInt64 := 14757395258967642112

/-- Mostly 0, else 1 to 12 millimetres. -/
def readRain (w : SimulatedWeather) : UInt16 × SimulatedWeather :=
  let (draw, stream) := w.stream.next64
  if draw < dryBelow then (0, { w with stream })
  else
    let (rain, stream) := drawWhole 1 12 stream
    (rain, { w with stream })

/-- 0 to 25 metres per second. -/
def readWind (w : SimulatedWeather) : UInt16 × SimulatedWeather :=
  let (wind, stream) := drawWhole 0 25 w.stream
  (wind, { w with stream })

end SimulatedWeather
end FieldLogger
