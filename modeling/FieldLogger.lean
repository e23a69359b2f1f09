import FieldLogger.Binary32
import FieldLogger.Calendar.Clock
import FieldLogger.Calendar.Date
import FieldLogger.Calendar.RunningClock
import FieldLogger.Config
import FieldLogger.Entry
import FieldLogger.FileLogger
import FieldLogger.Http.Address
import FieldLogger.Http.Exchange
import FieldLogger.Log
import FieldLogger.Main
import FieldLogger.Metadata
import FieldLogger.Pipeline
import FieldLogger.Proofs.Binary32.Order
import FieldLogger.Proofs.Calendar.ClockTexts
import FieldLogger.Proofs.Calendar.Days
import FieldLogger.Proofs.Calendar.Reading
import FieldLogger.Proofs.Calendar.RunningClock
import FieldLogger.Proofs.Calendar.Setters
import FieldLogger.Proofs.Config.Problems
import FieldLogger.Proofs.Entry.Numbers
import FieldLogger.Proofs.Entry.TimeAndDate
import FieldLogger.Proofs.FileLogger.AppendOnly
import FieldLogger.Proofs.FileLogger.Rotation
import FieldLogger.Proofs.Http.Address
import FieldLogger.Proofs.Http.Framing
import FieldLogger.Proofs.Http.ServerAddress
import FieldLogger.Proofs.Http.StatusLine
import FieldLogger.Proofs.Http.Streaming
import FieldLogger.Proofs.Measurement.Hottest
import FieldLogger.Proofs.Measurement.RecordFields
import FieldLogger.Proofs.Measurement.RecordSize
import FieldLogger.Proofs.Metadata.RoundTrip
import FieldLogger.Proofs.Metadata.Stability
import FieldLogger.Proofs.Metadata.Tolerance
import FieldLogger.Proofs.Pipeline.FanOut
import FieldLogger.Proofs.Registry.Boot
import FieldLogger.Proofs.Registry.Outcomes
import FieldLogger.Proofs.Registry.Reload
import FieldLogger.Proofs.Registry.Requests
import FieldLogger.Proofs.Registry.Settled
import FieldLogger.Proofs.Scheduler.Conversion
import FieldLogger.Proofs.Scheduler.Firing
import FieldLogger.Proofs.Scheduler.InTime
import FieldLogger.Proofs.Scheduler.Periods
import FieldLogger.Proofs.Scheduler.Runs
import FieldLogger.Proofs.Serial.Delivery
import FieldLogger.Proofs.Serial.Lines
import FieldLogger.Proofs.Station.Coherence
import FieldLogger.Proofs.Station.Configuration
import FieldLogger.Proofs.Station.Delivery
import FieldLogger.Proofs.Station.Independence
import FieldLogger.Proofs.Station.Mailbox
import FieldLogger.Proofs.Station.OnlySave
import FieldLogger.Proofs.Station.Timing
import FieldLogger.Proofs.Storage.DirectoryFiles
import FieldLogger.Proofs.Storage.MemoryFiles
import FieldLogger.Proofs.Storage.MemoryReading
import FieldLogger.Proofs.Storage.OpenFiles
import FieldLogger.Proofs.Terminal.ClockEntry
import FieldLogger.Proofs.Terminal.EditSession
import FieldLogger.Proofs.Terminal.Edits
import FieldLogger.Proofs.Terminal.Effects
import FieldLogger.Proofs.Terminal.FailedSave
import FieldLogger.Proofs.Terminal.InMemory
import FieldLogger.Proofs.Terminal.Screens
import FieldLogger.Proofs.Terminal.WellFormed
import FieldLogger.Proofs.Text.Decoding
import FieldLogger.Proofs.Text.FirstLine
import FieldLogger.Proofs.Text.Numerals
import FieldLogger.Proofs.Text.Scanning
import FieldLogger.Proofs.Text.Sizes
import FieldLogger.Proofs.Text.Trimming
import FieldLogger.Proofs.Text.Words
import FieldLogger.Proofs.Uplink.Course
import FieldLogger.Proofs.Uplink.Outcome
import FieldLogger.Proofs.Uplink.Waiting
import FieldLogger.Registry
import FieldLogger.Rotation
import FieldLogger.Scheduler
import FieldLogger.Sensor
import FieldLogger.Serial
import FieldLogger.Startup
import FieldLogger.Station.Basic
import FieldLogger.Station.Run
import FieldLogger.Storage.ByteStore
import FieldLogger.Storage.DirectoryStore
import FieldLogger.Storage.Disk
import FieldLogger.Storage.MemoryStore
import FieldLogger.Terminal.Screen
import FieldLogger.Terminal.Session
import FieldLogger.Terminal.Signal
import FieldLogger.Text.Blank
import FieldLogger.Text.GraphemeExtend
import FieldLogger.Text.Numeral
import FieldLogger.Text.Quoted
import FieldLogger.Text.Unprintable
import FieldLogger.Text.Utf8
import FieldLogger.Toml.Document
import FieldLogger.Toml.Literal
import FieldLogger.Toml.Quoted
import FieldLogger.Toml.Value
import FieldLogger.Uplink
import FieldLogger.Weather.KeyStream
import FieldLogger.Weather.Simulated
