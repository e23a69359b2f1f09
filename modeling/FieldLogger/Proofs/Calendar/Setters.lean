import FieldLogger.Calendar.Clock

/-! What a clock can be set to. A time is accepted if it is one of a day, without the leap second, and a date if it
    is in the calendar and of the years 0 to 9999 (`exists_checkedDate_iff`). A setter puts it in its place and
    keeps the other half of the clock (`setTime_ok`, `setDate_ok`). -/

namespace FieldLogger

theorem of_map_eq_ok {α β : Type} {x : Except EntryError α} {f : α → β} {b : β} (h : x.map f = .ok b) :
    ∃ a, x = .ok a ∧ f a = b := by
  cases x with
  | error e => cases h
  | ok a => exact ⟨a, rfl, Except.ok.inj h⟩

theorem Date.of?_eq_some_iff {year : Int} {month day : Nat} {d : Date} :
    Date.of? year month day = some d ↔ d.year = year ∧ d.month = month ∧ d.day = day := by
  constructor
  · intro h
    unfold Date.of? at h
    split at h
    · obtain rfl := Option.some.inj h
      exact ⟨rfl, rfl, rfl⟩
    · cases h
  · rintro ⟨rfl, rfl, rfl⟩
    exact dif_pos d.isDate

namespace Clock

/-! ### What is accepted -/

theorem checkedTime_ok {hour minute second : Nat} {t : TimeOfDay} (h : checkedTime hour minute second = .ok t) :
    t.hour = hour ∧ t.minute = minute ∧ t.second = second := by
  unfold checkedTime at h
  split at h
  · cases h
    exact ⟨rfl, rfl, rfl⟩
  · cases h

theorem checkedDate_ok {day month : Nat} {year : Int} {d : Date} (h : checkedDate day month year = .ok d) :
    (d.year = year ∧ d.month = month ∧ d.day = day) ∧ 0 ≤ year ∧ year ≤ 9999 := by
  unfold checkedDate at h
  split at h
  · cases h
  · rename_i hyear
    split at h
    · rename_i found hfound
      obtain rfl := Except.ok.inj h
      exact ⟨Date.of?_eq_some_iff.mp hfound, by omega⟩
    · cases h

/-- A date of the years 0 to 9999 is refused only if it is not in the calendar. -/
theorem exists_checkedDate_iff {day month : Nat} {year : Int} (hyear : 0 ≤ year ∧ year ≤ 9999) :
    (∃ d, checkedDate day month year = .ok d) ↔ DateExists year month day := by
  have hinYears : ¬(year < 0 ∨ 9999 < year) := by omega
  constructor
  · rintro ⟨d, h⟩
    obtain ⟨⟨rfl, rfl, rfl⟩, -⟩ := checkedDate_ok h
    exact d.isDate
  · intro hexists
    refine ⟨⟨year, month, day, hexists⟩, ?_⟩
    rw [checkedDate, if_neg hinYears, Date.of?, dif_pos hexists]

/-! ### What a setter does -/

theorem setTime_ok {c c' : Clock} {hour minute second : Nat} (h : c.setTime hour minute second = .ok c') :
    ∃ t, checkedTime hour minute second = .ok t ∧ c' = { c with time := t } := by
  obtain ⟨t, ht, rfl⟩ := of_map_eq_ok h
  exact ⟨t, ht, rfl⟩

theorem setDate_ok {c c' : Clock} {day month : Nat} {year : Int} (h : c.setDate day month year = .ok c') :
    ∃ d, checkedDate day month year = .ok d ∧ c' = { c with date := d } := by
  obtain ⟨d, hd, rfl⟩ := of_map_eq_ok h
  exact ⟨d, hd, rfl⟩

end Clock
end FieldLogger
