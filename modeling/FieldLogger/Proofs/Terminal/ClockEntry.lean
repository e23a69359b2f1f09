import FieldLogger.Proofs.Calendar.Setters
import FieldLogger.Proofs.Terminal.Edits
import FieldLogger.Storage.MemoryStore

/-! The time and date typed on the configuration screen. They are set one after the other, each by a setter that may
    refuse and with nothing undone, and still a typed line sets both or neither (`enter_sets_both_or_neither`):
    the date comes first, and no time that was typed in full is refused. -/

namespace FieldLogger

/-- The clock shows the six numbers that were typed. -/
structure Clock.Shows (c : Clock) (dt : TimeAndDate) : Prop where
  hour : c.time.hour = dt.hour
  minute : c.time.minute = dt.minute
  second : c.time.second = dt.second
  day : c.date.day = dt.day
  month : c.date.month = dt.month
  year : c.date.year = dt.year

namespace Session
variable {μ : Type}

theorem shows_of_setClock {c c' : Clock} {dt : TimeAndDate} (h : setClock c dt = (.ok (), c')) : c'.Shows dt := by
  obtain ⟨dated, hdated, hset⟩ := setClock_ok h
  obtain ⟨date, hdate, rfl⟩ := Clock.setDate_ok hdated
  obtain ⟨time, htime, rfl⟩ := Clock.setTime_ok hset
  obtain ⟨⟨hyear, hmonth, hday⟩, -⟩ := Clock.checkedDate_ok hdate
  obtain ⟨hhour, hminute, hsecond⟩ := Clock.checkedTime_ok htime
  exact ⟨hhour, hminute, hsecond, hday, hmonth, hyear⟩

/-- What is typed sets the clock, or leaves it if the day is not one of its month. -/
theorem setClock_of_typed {input : String} {dt : TimeAndDate} (h : Entry.timeAndDate input = .ok dt) (c : Clock) :
    (DateExists dt.year dt.month dt.day ∧ ∃ clock, setClock c dt = (.ok (), clock) ∧ clock.Shows dt) ∨
      (¬DateExists dt.year dt.month dt.day ∧ ∃ e, setClock c dt = (.error e, c)) := by
  have hyear : dt.year ≤ 9999 := (Entry.of_timeAndDate_ok h).1.year_le
  have hexists : (∃ d, Clock.checkedDate dt.day dt.month dt.year = .ok d) ↔ DateExists dt.year dt.month dt.day :=
    Clock.exists_checkedDate_iff (by omega)
  rcases setClock_timeAndDate h c with ⟨date, clock, hdate, hset⟩ | ⟨e, hdate, hset⟩
  · exact Or.inl ⟨hexists.mp ⟨date, hdate⟩, clock, hset, shows_of_setClock hset⟩
  · refine Or.inr ⟨fun h => ?_, e, hset⟩
    obtain ⟨date, hdate'⟩ := hexists.mpr h
    rw [hdate'] at hdate
    cases hdate

/-- The setters by themselves do set one half: here the date is set, and the time is refused after that. -/
example :
    setClock ⟨⟨2024, 1, 31, by decide⟩, ⟨7, 0, 0, by decide⟩⟩ ⟨24, 0, 0, 29, 2, 2024⟩ =
      (.error (.timeOutOfRange 24 0 0), ⟨⟨2024, 2, 29, by decide⟩, ⟨7, 0, 0, by decide⟩⟩) := by rfl

/-! ### Typed lines -/

/-- The line is accepted as a time and a date, and the day exists in its month. -/
def SetsClock (payload : Option String) (dt : TimeAndDate) : Prop :=
  ∃ input, payload = some input ∧ Entry.timeAndDate input = .ok dt ∧ DateExists dt.year dt.month dt.day

/-- A line that sets the clock does no more than that, and the field no longer waits. -/
theorem enterField_of_setsClock {payload : Option String} {dt : TimeAndDate} (h : SetsClock payload dt)
    (s : Session μ) :
    ∃ clock console, clock.Shows dt ∧ s.enterField .timeAndDate payload =
      { s with clock, terminal := { s.terminal with pending := none, console } } := by
  obtain ⟨input, rfl, hentry, hexists⟩ := h
  rcases setClock_of_typed hentry s.clock with ⟨-, clock, hset, hshows⟩ | ⟨hmissing, -⟩
  · refine ⟨clock, (s.terminal.say (Screen.taken .timeAndDate)).console, hshows, ?_⟩
    dsimp only [enterField, applyField]
    rw [hentry]
    dsimp only
    rw [hset]
    rfl
  · exact absurd hexists hmissing

/-- Any other line is refused, and only what is shown changes. -/
theorem enterField_of_not_setsClock {payload : Option String} (h : ¬∃ dt, SetsClock payload dt) (s : Session μ) :
    ∃ console, s.enterField .timeAndDate payload = { s with terminal := { s.terminal with console } } := by
  cases payload with
  | none => exact ⟨_, rfl⟩
  | some input =>
    dsimp only [enterField, applyField]
    cases hentry : Entry.timeAndDate input with
    | error e => exact ⟨_, rfl⟩
    | ok dt =>
      dsimp only
      rcases setClock_of_typed hentry s.clock with ⟨hexists, -⟩ | ⟨-, e, hset⟩
      · exact absurd ⟨dt, input, rfl, hentry, hexists⟩ h
      · rw [hset]
        exact ⟨_, rfl⟩

variable [Mediator μ]

theorem handle_enter {s : Session μ} {field : Field} (hscreen : s.terminal.screen = .deviceConfig)
    (hpending : s.terminal.pending = some field) (payload : Option String) :
    s.handle .enter payload = (.handled, s.enterField field payload) := by
  unfold handle
  rw [hscreen]
  dsimp only [dispatch, enter]
  rw [hpending]

/-- While the time and date wait, a line sets the clock to the six numbers that it gives and ends the waiting, and it
    does so just if it is accepted and its day is in the calendar. Otherwise the clock stays whole and the field
    waits on. The edited copy, the screen and the mediator stay as they are in any case. -/
theorem enter_sets_both_or_neither (s : Session μ) (payload : Option String)
    (hscreen : s.terminal.screen = .deviceConfig) (hpending : s.terminal.pending = some .timeAndDate) :
    let s' := (s.handle .enter payload).2
    (s'.terminal.staged = s.terminal.staged ∧ s'.terminal.screen = s.terminal.screen ∧ s'.mediator = s.mediator) ∧
    ((∃ dt, SetsClock payload dt ∧ s'.clock.Shows dt ∧ s'.terminal.pending = none) ∨
      ((¬∃ dt, SetsClock payload dt) ∧ s'.clock = s.clock ∧ s'.terminal.pending = s.terminal.pending)) := by
  rw [handle_enter hscreen hpending]
  dsimp only
  by_cases hsets : ∃ dt, SetsClock payload dt
  · obtain ⟨dt, hsets⟩ := hsets
    obtain ⟨clock, console, hshows, h⟩ := enterField_of_setsClock hsets s
    rw [h]
    exact ⟨⟨rfl, rfl, rfl⟩, Or.inl ⟨dt, hsets, hshows, rfl⟩⟩
  · obtain ⟨console, h⟩ := enterField_of_not_setsClock hsets s
    rw [h]
    exact ⟨⟨rfl, rfl, rfl⟩, Or.inr ⟨hsets, rfl, rfl⟩⟩

/-- A session in which the time and date wait. -/
def awaitingTime : Session (Registry MemoryStore) where
  terminal := { Terminal.ofMetadata .factory with screen := .deviceConfig, pending := some .timeAndDate }
  clock := ⟨⟨2021, 6, 30, by decide⟩, ⟨23, 59, 60, by decide⟩⟩
  mediator := .ofStore .empty "metadata.txt"

/-- A leap day sets the clock in a year that has one, and in another year neither the day nor the time is set. -/
theorem enter_sets_both_or_neither_leap_day :
    let set := (awaitingTime.handle .enter (some "6:07:08 29/2/2400")).2
    let refused := (awaitingTime.handle .enter (some "6:07:08 29/2/2300")).2
    (set.clock.Shows ⟨6, 7, 8, 29, 2, 2400⟩ ∧ set.terminal.pending = none) ∧
      (refused.clock = awaitingTime.clock ∧ refused.terminal.pending = some .timeAndDate) := by
  have htaken : Entry.timeAndDate "6:07:08 29/2/2400" = .ok ⟨6, 7, 8, 29, 2, 2400⟩ := by rfl
  have hread : Entry.timeAndDate "6:07:08 29/2/2300" = .ok ⟨6, 7, 8, 29, 2, 2300⟩ := by rfl
  refine ⟨?_, ?_⟩
  · rcases (enter_sets_both_or_neither awaitingTime (some "6:07:08 29/2/2400") rfl rfl).2 with
      ⟨dt, ⟨input, hinput, hentry, -⟩, hshows, hpending⟩ | ⟨hnot, -⟩
    · obtain rfl := Option.some.inj hinput
      rw [htaken] at hentry
      cases hentry
      exact ⟨hshows, hpending⟩
    · exact absurd ⟨_, _, rfl, htaken, by decide⟩ hnot
  · rcases (enter_sets_both_or_neither awaitingTime (some "6:07:08 29/2/2300") rfl rfl).2 with
      ⟨dt, ⟨input, hinput, hentry, hexists⟩, -⟩ | ⟨-, hclock, hpending⟩
    · obtain rfl := Option.some.inj hinput
      rw [hread] at hentry
      cases hentry
      exact absurd hexists (by decide)
    · exact ⟨hclock, hpending⟩

end Session
end FieldLogger
