import FieldLogger.Calendar.RunningClock
import FieldLogger.Proofs.Calendar.Days
import FieldLogger.Proofs.Calendar.Setters

/-! A running clock that is set to a date and then to a time, as a session sets it. The time finds the date again from
    the clock as it runs, so the clock is ahead by a day for each midnight it passed between the two settings
    (`now_of_setDate_setTime`), and it stands at what was set just if it passed none (`set_right_iff`). -/

namespace FieldLogger
namespace Instant

theorem sinceMidnight_bounds (t : Instant) : 0 ≤ sinceMidnight t ∧ sinceMidnight t < perDay :=
  ⟨Int.emod_nonneg t (by decide), Int.emod_lt_of_pos t (by decide)⟩

theorem date_ofDate_add (d : Date) (elapsed : Int) :
    date (ofDate d + elapsed) = Date.ofDayNumber (d.dayNumber + elapsed / perDay) := by
  unfold date ofDate
  rw [Int.add_comm, Int.add_mul_ediv_right _ _ (by decide), Int.add_comm]

theorem ofDate_ofDayNumber (n : Int) : ofDate (Date.ofDayNumber n) = n * perDay := by
  rw [ofDate, Date.dayNumber_ofDayNumber]

end Instant

namespace RunningClock

/-- A clock that was set to a date stands in that date, as late in the day as it was at the first reading. -/
theorem setDate_ok {c c' : RunningClock} {day month : Nat} {year : Int} {first second : Int}
    (h : c.setDate day month year first second = .ok c') :
    ∃ d, Clock.checkedDate day month year = .ok d ∧
      ∀ wall, c'.now wall = Instant.ofDate d + Instant.sinceMidnight (c.now first) + (wall - second) := by
  obtain ⟨d, hd, rfl⟩ := of_map_eq_ok h
  refine ⟨d, hd, fun wall => ?_⟩
  show @Eq Int (wall + (Instant.ofDate d + Instant.sinceMidnight (c.now first) - second)) _
  omega

/-- A clock that was set to a time stands at that time in the date that it had at the first reading. -/
theorem setTime_ok {c c' : RunningClock} {hour minute sec : Nat} {first second : Int}
    (h : c.setTime hour minute sec first second = .ok c') :
    ∃ t, Clock.checkedTime hour minute sec = .ok t ∧
      ∀ wall, c'.now wall = Instant.ofDate (Instant.date (c.now first)) + Instant.ofTime t + (wall - second) := by
  obtain ⟨t, ht, rfl⟩ := of_map_eq_ok h
  refine ⟨t, ht, fun wall => ?_⟩
  show @Eq Int (wall + (Instant.ofDate (Instant.date (c.now first)) + Instant.ofTime t - second)) _
  omega

/-- The midnights that a clock passes from the second reading of one setting to the first of the next, if at a reading
    before them it stood at `t`. -/
def midnights (t : Instant) (w2 w3 : Int) : Int :=
  (Instant.sinceMidnight t + (w3 - w2)) / Instant.perDay

section Settings
variable {c dated set : RunningClock} {day month : Nat} {year : Int} {hour minute sec : Nat} {w1 w2 w3 w4 : Int}

/-- A clock that was set to a date and then to a time runs on from these, but ahead by the midnights between. -/
theorem now_of_setDate_setTime (hdate : c.setDate day month year w1 w2 = .ok dated)
    (htime : dated.setTime hour minute sec w3 w4 = .ok set) :
    ∃ d t, Clock.checkedDate day month year = .ok d ∧ Clock.checkedTime hour minute sec = .ok t ∧
      ∀ wall, set.now wall =
        Instant.ofDate d + Instant.ofTime t + (wall - w4) + midnights (c.now w1) w2 w3 * Instant.perDay := by
  obtain ⟨d, hd, hdated⟩ := setDate_ok hdate
  obtain ⟨t, ht, hset⟩ := setTime_ok htime
  refine ⟨d, t, hd, ht, fun wall => ?_⟩
  rw [hset, hdated, Int.add_assoc (Instant.ofDate d), Instant.date_ofDate_add, Instant.ofDate_ofDayNumber,
    Int.add_mul, ← Instant.ofDate, ← midnights]
  show @Eq Int _ _
  omega

/-- If time does not run back, the clock stands at the date and time that were set just if no midnight was passed. -/
theorem set_right_iff (hdate : c.setDate day month year w1 w2 = .ok dated)
    (htime : dated.setTime hour minute sec w3 w4 = .ok set) (horder : w2 ≤ w3) :
    (∃ d t, Clock.checkedDate day month year = .ok d ∧ Clock.checkedTime hour minute sec = .ok t ∧
      ∀ wall, set.now wall = Instant.ofDate d + Instant.ofTime t + (wall - w4)) ↔
    Instant.sinceMidnight (c.now w1) + (w3 - w2) < Instant.perDay := by
  obtain ⟨d, t, hd, ht, hnow⟩ := now_of_setDate_setTime hdate htime
  have hpositive := (Instant.sinceMidnight_bounds (c.now w1)).1
  have hday : (0 : Int) < Instant.perDay := by decide
  constructor
  · rintro ⟨d', t', hd', ht', hright⟩
    rw [hd] at hd'
    rw [ht] at ht'
    cases hd'
    cases ht'
    have hnone : midnights (c.now w1) w2 w3 * Instant.perDay = 0 := by
      have hboth : @Eq Int _ _ := (hnow w4).symm.trans (hright w4)
      omega
    have hzero : midnights (c.now w1) w2 w3 = 0 := by
      rcases Int.mul_eq_zero.mp hnone with h | h
      · exact h
      · omega
    have hlast := Int.lt_ediv_add_one_mul_self (Instant.sinceMidnight (c.now w1) + (w3 - w2)) hday
    unfold midnights at hzero
    rw [hzero] at hlast
    omega
  · intro hbefore
    have hzero : midnights (c.now w1) w2 w3 = 0 := Int.ediv_eq_zero_of_lt (by omega) hbefore
    refine ⟨d, t, hd, ht, fun wall => ?_⟩
    rw [hnow, hzero, Int.zero_mul, Int.add_zero]

end Settings

/-- Half a second before midnight the date is set, and half a second after it the time: the clock is a day ahead. -/
example :
    let before := Instant.perDay - 500000000
    let after := Instant.perDay + 500000000
    ((unset.setDate 1 1 2030 before before).bind fun dated =>
      (dated.setTime 12 0 0 after after).map fun set => (set.now after).clock.timestamp) =
    .ok "02/01/2030 12:00:00" := by
  rfl

end RunningClock
end FieldLogger
