import FieldLogger.Station.Basic
import FieldLogger.Storage.MemoryStore

/-!
Runs of a station over stores in memory: rounds of the loop between things that happen outside it, such as
ticks, another weather, another answer of the server or a store that begins to fail.
-/

namespace FieldLogger.Station

/-- A station whose stores are in memory. -/
abbrev InMemory := Station MemoryStore MemoryStore

/-- Something that happens to a station. -/
inductive Event where
  /-- A round of the loop, with the line that was typed. -/
  | iterate (line : Option String)
  | ticks (n : Nat)
  | trigger
  /-- The sensors answer this from now on. -/
  | air (sample : Sample)
  /-- Posts go like this from now on. -/
  | attempt (a : Attempt)
  /-- Writes to the internal store fail from now on, or succeed again. -/
  | failInternal (fails : Bool)
  /-- Writes to the external store fail from now on, or succeed again. -/
  | failExternal (fails : Bool)
  /-- Someone sets the time; a time that is none changes nothing. -/
  | setTime (hour minute second : Nat)
  /-- Someone sets the date; a date that is none changes nothing. -/
  | setDate (day month : Nat) (year : Int)
  deriving DecidableEq, Repr

/-- The state after a change that may be refused. -/
def orSelf {σ e : Type} (s : σ) : Except e σ → σ
  | .ok s => s
  | .error _ => s

/-- Makes writes to the internal store fail or succeed. -/
def failInternal (s : InMemory) (fails : Bool) : InMemory :=
  let registry := s.session.mediator
  let store := { registry.store with failWrites := fails }
  { s with session := { s.session with mediator := { registry with store } } }

/-- Makes writes to the external store fail or succeed. -/
def failExternal (s : InMemory) (fails : Bool) : InMemory :=
  { s with logger := { s.logger with store := { s.logger.store with failWrites := fails } } }

def step (s : InMemory) : Event → InMemory
  | .iterate line => s.iterate line
  | .ticks n => s.ticks n
  | .trigger => s.trigger
  | .air sample => { s with air := sample }
  | .attempt attempt => { s with attempt }
  | .failInternal fails => s.failInternal fails
  | .failExternal fails => s.failExternal fails
  | .setTime hour minute second => orSelf s (s.setTime hour minute second)
  | .setDate day month year => orSelf s (s.setDate day month year)

/-- The station after a run of events. -/
def run (s : InMemory) (events : List Event) : InMemory := events.foldl step s

end FieldLogger.Station
