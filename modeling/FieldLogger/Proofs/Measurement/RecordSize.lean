import FieldLogger.Pipeline
import FieldLogger.Proofs.Binary32.Order
import FieldLogger.Proofs.Calendar.Days
import FieldLogger.Proofs.Calendar.Setters
import FieldLogger.Proofs.Text.Sizes

/-! A measurement record is short (`size_record_le`): its stamp, its readings and what stands between them take far
    fewer bytes than the longest record, as long as the clock stands in a year that a clock text can name. So
    no measurement is refused for the length of its record. -/

namespace FieldLogger
open Utf8

/-! ### Temperatures -/

namespace Binary32

/-- A finite number is less than what the pattern of the infinity would be as a number. -/
theorem units_lt {x : Binary32} (h : x.isFinite = true) : x.units < 2 ^ 24 * 2 ^ 253 := by
  have hlast : (⟨0x7F800000⟩ : Binary32).units = 2 ^ 24 * 2 ^ 253 := by decide +kernel
  rw [← hlast]
  exact units_lt_units (isFinite_iff.mp h)

theorem divNearestEven_le (num den : Nat) : divNearestEven num den ≤ num / den + 1 := by
  unfold divNearestEven
  dsimp only
  split <;> omega

theorem degrees_lt {x : Binary32} (h : x.isFinite = true) : divNearestEven (x.units * 100) one / 100 < 10 ^ 39 := by
  have hunits := units_lt h
  have hle := divNearestEven_le (x.units * 100) one
  have hquot : x.units * 100 / one < 2 ^ 128 * 100 := by
    rw [Nat.div_lt_iff_lt_mul (by decide)]
    calc x.units * 100 < 2 ^ 24 * 2 ^ 253 * 100 := Nat.mul_lt_mul_of_pos_right hunits (by decide)
      _ = 2 ^ 128 * 100 * one := by decide
  have hbound : (2 ^ 128 : Nat) < 10 ^ 39 := by decide
  omega

theorem size_chars_le (x : Binary32) : size x.chars ≤ 43 := by
  unfold chars
  split
  · decide
  · have hsign : size (if x.isNegative then ['-'] else []) ≤ 1 := by
      split <;> decide
    dsimp only
    split
    · rename_i hfinite
      have hwhole := size_numeral_le (by decide) (degrees_lt hfinite)
      have hpart : size (Text.padded 2 (divNearestEven (x.units * 100) one % 100)) ≤ 2 :=
        size_padded_le (by decide) (by decide) (Nat.mod_lt _ (by decide))
      have hpoint : ('.').utf8Size = 1 := rfl
      simp only [size_append, size_cons, hpoint]
      omega
    · have hinf : size ['i', 'n', 'f'] = 3 := by decide
      rw [size_append, hinf]
      omega

end Binary32

/-! ### Clocks -/

/-- The clock stands in a year that a clock text can name. -/
def Clock.InRange (c : Clock) : Prop := -Clock.maxYear - 1 ≤ c.date.year ∧ c.date.year ≤ Clock.maxYear

theorem Clock.inRange_setTime {c c' : Clock} {hour minute second : Nat} (hc : c.InRange)
    (h : c.setTime hour minute second = .ok c') : c'.InRange := by
  obtain ⟨t, -, rfl⟩ := setTime_ok h
  exact hc

theorem Clock.inRange_setDate {c c' : Clock} {day month : Nat} {year : Int} (h : c.setDate day month year = .ok c') :
    c'.InRange := by
  obtain ⟨d, hd, rfl⟩ := setDate_ok h
  obtain ⟨⟨rfl, -, -⟩, hyears⟩ := checkedDate_ok hd
  unfold Clock.InRange Clock.maxYear
  dsimp only
  omega

theorem Clock.inRange_of_read? {text : String} {c : Clock} (h : Clock.read? text = some c) : c.InRange := by
  unfold Clock.read? at h
  simp only [Option.bind_eq_bind, Option.bind_eq_some_iff] at h
  obtain ⟨_, -, _, -, _, -, _, -, ⟨year, _⟩, -, _, -, _, -, _, -, _, -, _, -, h⟩ := h
  split at h
  · cases h
  · rename_i hyear
    obtain ⟨date, hdate, h⟩ := Option.bind_eq_some_iff.mp h
    obtain ⟨time, -, h⟩ := Option.bind_eq_some_iff.mp h
    obtain rfl := Option.some.inj h
    obtain ⟨hdateYear, -, -⟩ := Date.of?_eq_some_iff.mp hdate
    unfold Clock.InRange
    dsimp only at hyear hdateYear ⊢
    omega

theorem size_yearChars_le {year : Int} (h : year.natAbs < 10 ^ 6) : size (yearChars year) ≤ 7 := by
  have hdigits : size (Text.padded 4 year.natAbs) ≤ 6 := size_padded_le (by decide) (by decide) h
  have hminus : ('-').utf8Size = 1 := rfl
  have hplus : ('+').utf8Size = 1 := rfl
  unfold yearChars
  split
  · rw [size_cons]
    omega
  · split
    · omega
    · rw [size_cons]
      omega

theorem Date.size_chars_le {d : Date} (h : d.year.natAbs < 10 ^ 6) : size d.chars ≤ 13 := by
  obtain ⟨-, hmonth, -, -⟩ := d.isDate
  have hday := d.day_le
  have hd : size (Text.padded 2 d.day) ≤ 2 := size_padded_le (by decide) (by decide) (by omega)
  have hm : size (Text.padded 2 d.month) ≤ 2 := size_padded_le (by decide) (by decide) (by omega)
  have hy := size_yearChars_le h
  have hslash : ('/').utf8Size = 1 := rfl
  unfold Date.chars
  simp only [size_append, size_cons, hslash]
  omega

theorem TimeOfDay.size_chars_le (t : TimeOfDay) : size t.chars ≤ 8 := by
  obtain ⟨hhour, hminute, hsecond⟩ := t.isTime
  have hh : size (Text.padded 2 t.hour) ≤ 2 := size_padded_le (by decide) (by decide) (by omega)
  have hm : size (Text.padded 2 t.minute) ≤ 2 := size_padded_le (by decide) (by decide) (by omega)
  have hs : size (Text.padded 2 t.second) ≤ 2 := size_padded_le (by decide) (by decide) (by omega)
  have hcolon : (':').utf8Size = 1 := rfl
  unfold TimeOfDay.chars
  simp only [size_append, size_cons, hcolon]
  omega

theorem Clock.size_timestamp_le {c : Clock} (h : c.InRange) : size c.timestamp.toList ≤ 22 := by
  obtain ⟨hlow, hhigh⟩ := h
  unfold Clock.maxYear at hlow hhigh
  have hdate : size c.date.chars ≤ 13 := Date.size_chars_le (by omega)
  have htime := c.time.size_chars_le
  have hspace : (' ').utf8Size = 1 := rfl
  unfold Clock.timestamp
  rw [String.toList_ofList, size_append, size_cons]
  omega

/-! ### Records -/

theorem Sample.size_field_le {α : Type} {chars : α → List Char} {n : Nat} (h : ∀ a, size (chars a) ≤ n)
    (reading : Option α) : size (Sample.field chars reading) ≤ n := by
  cases reading with
  | none => exact Nat.zero_le _
  | some a => exact h a

theorem Sample.size_record (s : Sample) (timestamp : String) :
    (s.record timestamp).utf8ByteSize =
      size timestamp.toList + size (Sample.field Binary32.chars s.temperature) +
        size (Sample.field (fun h => Text.numeral h.toNat) s.humidity) +
        size (Sample.field (fun r => Text.numeral r.toNat) s.rain) +
        size (Sample.field (fun w => Text.numeral w.toNat) s.wind) + 7 := by
  have hlayout : size (Text.numeral Sample.layoutVersion) = 1 := by decide
  have hsep : (';').utf8Size = 1 := rfl
  have hend : size ['\n'] = 1 := by decide
  unfold Sample.record
  rw [utf8ByteSize_ofList]
  simp only [size_append, size_cons, hlayout, hsep, hend]
  omega

/-- Besides its time stamp, a record takes at most 63 bytes. -/
theorem Sample.size_record_le_add (s : Sample) (timestamp : String) :
    (s.record timestamp).utf8ByteSize ≤ size timestamp.toList + 63 := by
  have htemperature := Sample.size_field_le Binary32.size_chars_le s.temperature
  have hhumidity : size (Sample.field (fun h : UInt8 => Text.numeral h.toNat) s.humidity) ≤ 3 :=
    Sample.size_field_le (fun h => size_numeral_le (by decide) (Nat.lt_trans h.toNat_lt (by decide))) s.humidity
  have hword : ∀ w : UInt16, size (Text.numeral w.toNat) ≤ 5 := fun w =>
    size_numeral_le (by decide) (Nat.lt_trans w.toNat_lt (by decide))
  have hrain := Sample.size_field_le hword s.rain
  have hwind := Sample.size_field_le hword s.wind
  rw [Sample.size_record]
  omega

/-- The record of a clock in range takes at most 85 bytes. -/
theorem Sample.size_record_le (s : Sample) {c : Clock} (h : c.InRange) :
    (s.record c.timestamp).utf8ByteSize ≤ 85 :=
  Nat.le_trans (s.size_record_le_add c.timestamp) (Nat.add_le_add_right (Clock.size_timestamp_le h) 63)

/-- The readings that take the most room: the lowest temperature, and the largest of the other numbers. -/
def Sample.longest : Sample := ⟨some ⟨0xFF7FFFFF⟩, some 255, some 65535, some 65535⟩

theorem Sample.size_record_longest (timestamp : String) :
    (Sample.longest.record timestamp).utf8ByteSize = size timestamp.toList + 63 := by
  have htemperature : size (Sample.field Binary32.chars Sample.longest.temperature) = 43 := by decide +kernel
  have hhumidity : size (Sample.field (fun h => Text.numeral h.toNat) Sample.longest.humidity) = 3 := by decide +kernel
  have hrain : size (Sample.field (fun r => Text.numeral r.toNat) Sample.longest.rain) = 5 := by decide +kernel
  have hwind : size (Sample.field (fun w => Text.numeral w.toNat) Sample.longest.wind) = 5 := by decide +kernel
  rw [Sample.size_record]
  omega

end FieldLogger
