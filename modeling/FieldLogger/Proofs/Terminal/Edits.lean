import FieldLogger.Terminal.Session
import FieldLogger.Proofs.Entry.TimeAndDate
import FieldLogger.Proofs.Metadata.RoundTrip

/-! What a session makes of a typed value. A value that is accepted for the field that waits is an `Edit` of the copy
    that is edited, or sets the clock; a refused one changes neither, and the field goes on waiting. -/

namespace FieldLogger

/-! ### Edits -/

/-- A value that was accepted for what a session can edit. -/
inductive Edit where
  | name (name : String)
  | filePeriod (p : FilePeriod)
  | measurement (minutes : UInt32)
  | transmission (minutes : UInt32)
  | report (minutes : UInt32)
  /-- The clock was set. -/
  | clock
  deriving DecidableEq, Repr

namespace Edit

/-- What a typed value is accepted as, if it is, for the field that waits. -/
def of? (field : Field) (input : String) : Option Edit :=
  match field with
  | .name => (Entry.name input).toOption.map .name
  | .timeAndDate =>
    (Entry.timeAndDate input).toOption.bind fun dt =>
      (Clock.checkedDate dt.day dt.month dt.year).toOption.map fun _ => .clock
  | .filePeriod => (Entry.filePeriod input).toOption.map .filePeriod
  | .measurement => (Entry.minutes input).toOption.map .measurement
  | .transmission => (Entry.minutes input).toOption.map .transmission
  | .report => (Entry.minutes input).toOption.map .report

/-- The record with the value in its field; the clock is not in the record. -/
def apply (m : Metadata) : Edit → Metadata
  | .name v => { m with name := v }
  | .filePeriod v => { m with filePeriod := v }
  | .measurement v => { m with measurement := v }
  | .transmission v => { m with transmission := v }
  | .report v => { m with report := v }
  | .clock => m

theorem name_apply {field : Field} {input : String} {e : Edit} (h : of? field input = some e) (m : Metadata) :
    (e.apply m).name = m.name ∨ Entry.name input = .ok (e.apply m).name := by
  cases field with
  | name =>
    right
    obtain ⟨name, hname, rfl⟩ := Option.map_eq_some_iff.mp h
    cases hentry : Entry.name input with
    | error err =>
      rw [hentry] at hname
      cases hname
    | ok name' =>
      rw [hentry] at hname
      exact congrArg Except.ok (Option.some.inj hname)
  | timeAndDate =>
    left
    obtain ⟨dt, -, h⟩ := Option.bind_eq_some_iff.mp h
    obtain ⟨-, -, rfl⟩ := Option.map_eq_some_iff.mp h
    rfl
  | filePeriod | measurement | transmission | report =>
    left
    obtain ⟨-, -, rfl⟩ := Option.map_eq_some_iff.mp h
    rfl

theorem storable_apply {field : Field} {input : String} {e : Edit} {m : Metadata} (h : of? field input = some e)
    (hm : Storable m.name) : Storable (e.apply m).name := by
  rcases name_apply h m with hname | hentry
  · rw [hname]
    exact hm
  · exact (Storable.of_entry hentry).1

theorem trim_name_apply {field : Field} {input : String} {e : Edit} {m : Metadata} (h : of? field input = some e)
    (hm : Text.trim m.name.toList = m.name.toList) : Text.trim (e.apply m).name.toList = (e.apply m).name.toList := by
  rcases name_apply h m with hname | hentry
  · rw [hname]
    exact hm
  · exact (Storable.of_entry hentry).2

end Edit

namespace Session
variable {μ : Type}

/-! ### Entries -/

theorem of_stage_ok {α : Type} {s taken : Session μ} {value : Except EntryError α} {put : α → Metadata → Metadata}
    (h : s.stage value put = (.ok (), taken)) : ∃ v, value = .ok v ∧ taken = s.edit (put v) := by
  cases value with
  | error e => cases h
  | ok v => exact ⟨v, rfl, (Prod.mk.inj h).2.symm⟩

theorem of_stage_error {α : Type} {s after : Session μ} {value : Except EntryError α}
    {put : α → Metadata → Metadata} {e : EntryError} (h : s.stage value put = (.error e, after)) :
    value = .error e ∧ after = s := by
  cases value with
  | error e' =>
    obtain ⟨he, hs⟩ := Prod.mk.inj h
    exact ⟨congrArg Except.error (Except.error.inj he), hs.symm⟩
  | ok v => cases h

theorem setClock_ok {c c' : Clock} {dt : TimeAndDate} (h : setClock c dt = (.ok (), c')) :
    ∃ dated, c.setDate dt.day dt.month dt.year = .ok dated ∧ dated.setTime dt.hour dt.minute dt.second = .ok c' := by
  unfold setClock at h
  split at h
  · cases h
  · rename_i dated hdate
    split at h
    · cases h
    · rename_i set htime
      obtain rfl := (Prod.mk.inj h).2
      exact ⟨dated, hdate, htime⟩

/-- The clock can be set to every time that is typed in full, if the date exists; if not, it is kept. The date is
    set first, so this rests on the time that follows never being refused. -/
theorem setClock_timeAndDate {input : String} {dt : TimeAndDate} (h : Entry.timeAndDate input = .ok dt) (c : Clock) :
    (∃ date clock, Clock.checkedDate dt.day dt.month dt.year = .ok date ∧ setClock c dt = (.ok (), clock)) ∨
      ∃ e, Clock.checkedDate dt.day dt.month dt.year = .error e ∧ setClock c dt = (.error e, c) := by
  obtain ⟨hhour, hminute, hsecond⟩ := (Entry.of_timeAndDate_ok h).2.1
  have htime : dt.hour < 24 ∧ dt.minute < 60 ∧ dt.second < 60 := by omega
  unfold setClock Clock.setDate
  cases hdate : Clock.checkedDate dt.day dt.month dt.year with
  | error e => exact Or.inr ⟨e, rfl, rfl⟩
  | ok date =>
    obtain ⟨set, hset⟩ : ∃ set, Clock.setTime { c with date } dt.hour dt.minute dt.second = .ok set := by
      rw [Clock.setTime, Clock.checkedTime, dif_pos htime]
      exact ⟨_, rfl⟩
    refine Or.inl ⟨date, set, rfl, ?_⟩
    dsimp only [Except.map]
    rw [hset]

theorem applyField_ok {s taken : Session μ} {field : Field} {input : String}
    (h : s.applyField field input = (.ok (), taken)) :
    ∃ e clock, Edit.of? field input = some e ∧ taken = { s.edit e.apply with clock } ∧
      (clock = s.clock ∨ ∃ dt, setClock s.clock dt = (.ok (), clock)) := by
  cases field with
  | timeAndDate =>
    dsimp only [applyField] at h
    cases hentry : Entry.timeAndDate input with
    | error e =>
      rw [hentry] at h
      cases h
    | ok dt =>
      rw [hentry] at h
      dsimp only at h
      rcases setClock_timeAndDate hentry s.clock with ⟨date, clock, hdate, hset⟩ | ⟨e, -, hset⟩ <;> rw [hset] at h
      · refine ⟨.clock, clock, ?_, (Prod.mk.inj h).2.symm, Or.inr ⟨dt, hset⟩⟩
        rw [Edit.of?, hentry]
        show (Clock.checkedDate dt.day dt.month dt.year).toOption.map (fun _ => Edit.clock) = _
        rw [hdate]
        rfl
      · cases h
  | name =>
    obtain ⟨v, hv, rfl⟩ := of_stage_ok h
    exact ⟨.name v, s.clock, by rw [Edit.of?, hv]; rfl, rfl, Or.inl rfl⟩
  | filePeriod =>
    obtain ⟨v, hv, rfl⟩ := of_stage_ok h
    exact ⟨.filePeriod v, s.clock, by rw [Edit.of?, hv]; rfl, rfl, Or.inl rfl⟩
  | measurement =>
    obtain ⟨v, hv, rfl⟩ := of_stage_ok h
    exact ⟨.measurement v, s.clock, by rw [Edit.of?, hv]; rfl, rfl, Or.inl rfl⟩
  | transmission =>
    obtain ⟨v, hv, rfl⟩ := of_stage_ok h
    exact ⟨.transmission v, s.clock, by rw [Edit.of?, hv]; rfl, rfl, Or.inl rfl⟩
  | report =>
    obtain ⟨v, hv, rfl⟩ := of_stage_ok h
    exact ⟨.report v, s.clock, by rw [Edit.of?, hv]; rfl, rfl, Or.inl rfl⟩

theorem applyField_error {s after : Session μ} {field : Field} {input : String} {e : EntryError}
    (h : s.applyField field input = (.error e, after)) : Edit.of? field input = none ∧ after = s := by
  cases field with
  | timeAndDate =>
    dsimp only [applyField] at h
    cases hentry : Entry.timeAndDate input with
    | error e =>
      rw [hentry] at h
      exact ⟨by rw [Edit.of?, hentry]; rfl, (Prod.mk.inj h).2.symm⟩
    | ok dt =>
      rw [hentry] at h
      dsimp only at h
      rcases setClock_timeAndDate hentry s.clock with ⟨date, clock, -, hset⟩ | ⟨e', hdate, hset⟩ <;> rw [hset] at h
      · cases h
      · refine ⟨?_, (Prod.mk.inj h).2.symm⟩
        rw [Edit.of?, hentry]
        show (Clock.checkedDate dt.day dt.month dt.year).toOption.map (fun _ => Edit.clock) = _
        rw [hdate]
        rfl
  | name | filePeriod | measurement | transmission | report =>
    obtain ⟨hvalue, hafter⟩ := of_stage_error h
    exact ⟨by rw [Edit.of?, hvalue]; rfl, hafter⟩

/-- A line while a field waits is refused and leaves the field waiting, or is taken as an edit. -/
theorem enterField_effect (s : Session μ) (field : Field) (payload : Option String) :
    (payload.bind (Edit.of? field) = none ∧
      ∃ console, s.enterField field payload = { s with terminal := { s.terminal with console } }) ∨
    ∃ e clock console, payload.bind (Edit.of? field) = some e ∧
      (clock = s.clock ∨ ∃ dt, setClock s.clock dt = (.ok (), clock)) ∧
      s.enterField field payload =
        { s with
          terminal := { s.terminal with staged := e.apply s.terminal.staged, pending := none, console }
          clock } := by
  unfold enterField
  cases payload with
  | none => exact Or.inl ⟨rfl, _, rfl⟩
  | some input =>
    dsimp only
    cases happ : s.applyField field input with
    | mk result after =>
      cases result with
      | error err =>
        obtain ⟨hrefused, rfl⟩ := applyField_error happ
        exact Or.inl ⟨hrefused, _, rfl⟩
      | ok =>
        obtain ⟨e, clock, he, rfl, hclock⟩ := applyField_ok happ
        exact Or.inr ⟨e, clock, _, he, hclock, rfl⟩

end Session
end FieldLogger
