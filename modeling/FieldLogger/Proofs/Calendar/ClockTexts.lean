import FieldLogger.Proofs.Calendar.Reading

/-! The texts of a clock that was read from a text and then set any number of times (`texts_round_trip`). The clock is read
    back from its timestamp. The texts have a fixed width, and are an entry of that time and date, just if the year is
    written in four digits. A date that is set has such a year, but a text can start the clock in any other, with a
    sign before it. -/

namespace FieldLogger
namespace Clock

/-! ### The form of the texts -/

theorem timestamp_eq (c : Clock) : c.timestamp = c.dateText ++ " " ++ c.timeText := by
  rw [← String.toList_inj]
  simp [timestamp, dateText, timeText]

theorem mem_yearChars {year : Int} {x : Char} (h : x ∈ yearChars year) : x.isDigit = true ∨ x = '+' ∨ x = '-' := by
  rcases yearChars_cases year with ⟨-, -, hchars⟩ | ⟨-, hchars⟩ | ⟨-, hchars⟩ <;> rw [hchars] at h
  · exact Or.inl (Text.isDigit_of_mem_padded h)
  · rcases List.mem_cons.mp h with rfl | h
    · exact Or.inr (Or.inr rfl)
    · exact Or.inl (Text.isDigit_of_mem_padded h)
  · rcases List.mem_cons.mp h with rfl | h
    · exact Or.inr (Or.inl rfl)
    · exact Or.inl (Text.isDigit_of_mem_padded h)

theorem mem_dateChars {d : Date} {x : Char} (h : x ∈ d.chars) :
    x.isDigit = true ∨ x = '/' ∨ x = '+' ∨ x = '-' := by
  simp only [Date.chars, List.mem_append, List.mem_cons] at h
  rcases h with (h | rfl | h) | rfl | h
  · exact Or.inl (Text.isDigit_of_mem_padded h)
  · exact Or.inr (Or.inl rfl)
  · exact Or.inl (Text.isDigit_of_mem_padded h)
  · exact Or.inr (Or.inl rfl)
  · exact (mem_yearChars h).imp_right Or.inr

theorem mem_timeChars {t : TimeOfDay} {x : Char} (h : x ∈ t.chars) : x.isDigit = true ∨ x = ':' := by
  simp only [TimeOfDay.chars, List.mem_append, List.mem_cons] at h
  rcases h with (h | rfl | h) | rfl | h
  · exact Or.inl (Text.isDigit_of_mem_padded h)
  · exact Or.inr rfl
  · exact Or.inl (Text.isDigit_of_mem_padded h)
  · exact Or.inr rfl
  · exact Or.inl (Text.isDigit_of_mem_padded h)

theorem toNat_lt_of_mem_timestamp {c : Clock} {x : Char} (h : x ∈ c.timestamp.toList) : x.toNat < 128 := by
  have hdigit : x.isDigit = true → x.toNat < 128 := fun hx => by
    have hn : 48 ≤ x.toNat ∧ x.toNat ≤ 57 := Char.isDigit_iff_toNat.mp hx
    omega
  rw [timestamp, String.toList_ofList, List.mem_append, List.mem_cons] at h
  rcases h with h | rfl | h
  · rcases mem_dateChars h with h | rfl | rfl | rfl
    · exact hdigit h
    all_goals decide
  · decide
  · rcases mem_timeChars h with h | rfl
    · exact hdigit h
    · decide

theorem length_yearChars_le_iff {year : Int} : (yearChars year).length ≤ 4 ↔ 0 ≤ year ∧ year ≤ 9999 := by
  have hdigits := Text.le_length_padded 4 year.natAbs
  rcases yearChars_cases year with ⟨hlow, hhigh, -⟩ | ⟨hyear, hchars⟩ | ⟨hyear, hchars⟩
  · exact iff_of_true (Nat.le_of_eq (Rotation.length_yearChars ⟨hlow, hhigh⟩)) ⟨hlow, hhigh⟩
  all_goals
    rw [hchars, List.length_cons]
    omega

theorem le_length_yearChars (year : Int) : 4 ≤ (yearChars year).length := by
  have hdigits := Text.le_length_padded 4 year.natAbs
  rcases yearChars_cases year with ⟨-, -, hchars⟩ | ⟨-, hchars⟩ | ⟨-, hchars⟩ <;> rw [hchars]
  · exact hdigits
  all_goals exact Nat.le_succ_of_le hdigits

theorem length_dateChars (d : Date) : d.chars.length = 6 + (yearChars d.year).length := by
  simp only [Date.chars, List.length_append, List.length_cons, Text.length_padded (by decide) (Rotation.day_lt d),
    Text.length_padded (by decide) (Rotation.month_lt d)]
  omega

theorem length_timeChars (t : TimeOfDay) : t.chars.length = 8 := by
  obtain ⟨hhour, hminute, hsecond⟩ := t.isTime
  have hpadded : ∀ {n : Nat}, n ≤ 60 → (Text.padded 2 n).length = 2 := fun hn =>
    Text.length_padded (by decide) (by omega)
  simp only [TimeOfDay.chars, List.length_append, List.length_cons, hpadded (Nat.le_of_lt hminute), hpadded hsecond,
    hpadded (Nat.le_trans (Nat.le_of_lt hhour) (by decide))]

theorem length_timestamp_eq_iff (c : Clock) : c.timestamp.length = 19 ↔ c.date.InFourDigits := by
  have hyear := le_length_yearChars c.date.year
  rw [Date.InFourDigits, ← length_yearChars_le_iff, timestamp, String.length_ofList, List.length_append,
    List.length_cons, length_dateChars, length_timeChars]
  omega

/-! ### The texts as an entry -/

/-- What the clock shows as it would be typed. -/
def parts (c : Clock) : TimeAndDate :=
  ⟨c.time.hour, c.time.minute, c.time.second, c.date.day, c.date.month, c.date.year.toNat⟩

theorem shortNumber_padded {width n : Nat} (hw : 0 < width) (h : n < 10 ^ width) :
    Entry.ShortNumber width (Text.padded width n) n where
  some := Text.padded_ne_nil width n
  short := Nat.le_of_eq (Text.length_padded hw h)
  digits _ := Text.isDigit_of_mem_padded
  value := Text.ofDigitChars_padded width n

theorem three_timeChars (t : TimeOfDay) : Entry.Three ':' 2 t.chars t.hour t.minute t.second := by
  obtain ⟨hhour, hminute, hsecond⟩ := t.isTime
  refine ⟨_, _, _, ?_, shortNumber_padded (by decide) (by omega), shortNumber_padded (by decide) (by omega),
    shortNumber_padded (by decide) (by omega)⟩
  rw [TimeOfDay.chars, List.append_assoc, List.cons_append]

theorem three_dateChars {d : Date} (h : d.InFourDigits) : Entry.Three '/' 4 d.chars d.day d.month d.year.toNat := by
  have hyear : Entry.ShortNumber 4 (yearChars d.year) d.year.toNat := by
    obtain ⟨hlow, hhigh⟩ := h
    have habs : d.year.natAbs = d.year.toNat := by omega
    rw [Rotation.yearChars_eq ⟨hlow, hhigh⟩, habs]
    exact shortNumber_padded (by decide) (by omega)
  refine ⟨_, _, _, ?_, shortNumber_padded (by decide) (Rotation.day_lt d),
    shortNumber_padded (by decide) (Rotation.month_lt d), hyear⟩
  rw [Date.chars, List.append_assoc, List.cons_append]

theorem inFourDigits_of_three {d : Date} {day month year : Nat} (h : Entry.Three '/' 4 d.chars day month year) :
    d.InFourDigits := by
  obtain ⟨x, y, z, hchars, hx, hy, hz⟩ := h
  have hfree : ∀ {n : Nat}, '/' ∉ Text.padded 2 n := fun hmem =>
    Text.ne_of_isDigit (Text.isDigit_of_mem_padded hmem) (by decide) rfl
  have hyearFree : '/' ∉ yearChars d.year := fun hmem => by
    rcases mem_yearChars hmem with hc | hc | hc <;> exact absurd hc (by decide)
  have hwritten : Text.splitAt '/' d.chars =
      [Text.padded 2 d.day, Text.padded 2 d.month, yearChars d.year] :=
    Text.splitAt_eq_three.mpr ⟨by rw [Date.chars, List.append_assoc, List.cons_append], hfree, hfree, hyearFree⟩
  have htyped : Text.splitAt '/' d.chars = [x, y, z] :=
    Text.splitAt_eq_three.mpr ⟨hchars, hx.not_mem (by decide), hy.not_mem (by decide), hz.not_mem (by decide)⟩
  rw [hwritten] at htyped
  obtain ⟨-, -, rfl⟩ : Text.padded 2 d.day = x ∧ Text.padded 2 d.month = y ∧ yearChars d.year = z := by
    simpa using htyped
  exact length_yearChars_le_iff.mp hz.short

theorem words_texts (c : Clock) :
    Text.words (c.timeText ++ " " ++ c.dateText).toList = [c.time.chars, c.date.chars] := by
  have htext : (c.timeText ++ " " ++ c.dateText).toList = [] ++ c.time.chars ++ ([' '] ++ c.date.chars ++ []) := by
    simp [timeText, dateText]
  have hdate : ∀ x ∈ c.date.chars, Text.isBlank x = false := fun x hx => by
    rcases mem_dateChars hx with hx | rfl | rfl | rfl
    · exact Text.isBlank_eq_false_of_isDigit hx
    all_goals decide
  have hgap : Text.AllBlank [' '] := fun x hx => by
    rw [List.mem_singleton.mp hx]
    decide
  refine Text.words_eq_two_iff.mpr ⟨[], [' '], [], htext, Text.allBlank_nil, hgap, Text.allBlank_nil, List.cons_ne_nil _ _,
    (three_timeChars c.time).isWord (by decide), ?_, hdate⟩
  rw [Date.chars]
  exact List.append_ne_nil_of_right_ne_nil _ (List.cons_ne_nil _ _)

/-- The time and the date are an entry in form just if the year is written in four digits. -/
theorem typed_texts_iff {c : Clock} {dt : TimeAndDate} :
    Entry.Typed (c.timeText ++ " " ++ c.dateText) dt ↔ c.date.InFourDigits ∧ dt = c.parts := by
  have htime := (Entry.three?_eq_some_iff (by decide)).mpr (three_timeChars c.time)
  rw [Entry.typed_iff, words_texts]
  constructor
  · rintro ⟨time, date, hwords, htyped, hdated⟩
    obtain ⟨rfl, rfl⟩ : c.time.chars = time ∧ c.date.chars = date := by simpa using hwords
    have hfour := inFourDigits_of_three ((Entry.three?_eq_some_iff (by decide)).mp hdated)
    rw [(Entry.three?_eq_some_iff (by decide)).mpr (three_dateChars hfour)] at hdated
    rw [htime] at htyped
    simp only [Option.some.injEq, Prod.mk.injEq] at htyped hdated
    obtain ⟨hhour, hminute, hsecond⟩ := htyped
    obtain ⟨hday, hmonth, hyear⟩ := hdated
    refine ⟨hfour, ?_⟩
    rw [parts, hhour, hminute, hsecond, hday, hmonth, hyear]
  · rintro ⟨hfour, rfl⟩
    exact ⟨_, _, rfl, htime, (Entry.three?_eq_some_iff (by decide)).mpr (three_dateChars hfour)⟩

/-- What comes of the time and the date when they are entered: a leap second is no time of an entry. -/
theorem timeAndDate_texts (c : Clock) :
    Entry.timeAndDate (c.timeText ++ " " ++ c.dateText) =
      if ¬c.date.InFourDigits then .error .timeFormat
      else if c.time.second = 60 then .error (.timeOutOfRange c.time.hour c.time.minute 60)
      else .ok c.parts := by
  by_cases hfour : c.date.InFourDigits
  · obtain ⟨hhour, hminute, hsecond⟩ := c.time.isTime
    have hdate : c.parts.DateInRange := by
      obtain ⟨hmonth, hmonth', hday, -⟩ := c.date.isDate
      exact ⟨hday, c.date.day_le, hmonth, hmonth'⟩
    have htime : c.parts.TimeInRange ↔ c.time.second ≠ 60 := by
      unfold TimeAndDate.TimeInRange parts
      dsimp only
      omega
    rw [Entry.timeAndDate_of_typed (typed_texts_iff.mpr ⟨hfour, rfl⟩), if_neg (not_not_intro hfour)]
    by_cases hleap : c.time.second = 60
    · rw [if_pos fun h => htime.mp h hleap, if_pos hleap, ← hleap]
      rfl
    · rw [if_neg (not_not_intro (htime.mpr hleap)), if_neg (not_not_intro hdate), if_neg hleap]
  · have hform : ∀ dt, ¬Entry.Typed (c.timeText ++ " " ++ c.dateText) dt := fun dt h => hfour (typed_texts_iff.mp h).1
    rw [Entry.timeAndDate_of_not_typed hform, words_texts, if_neg (List.cons_ne_nil _ _), if_pos hfour]

/-! ### Clocks that are set -/

inductive Setting where
  | time (hour minute second : Nat)
  | date (day month : Nat) (year : Int)
  deriving DecidableEq, Repr

def attempt (c : Clock) : Setting → Except EntryError Clock
  | .time hour minute second => c.setTime hour minute second
  | .date day month year => c.setDate day month year

/-- The clock after a setting, which it keeps to if it refuses it. -/
def set (c : Clock) (s : Setting) : Clock := (c.attempt s).toOption.getD c

def run (c : Clock) (settings : List Setting) : Clock := settings.foldl set c

/-- The setting is to a date that is accepted. -/
def Setting.SetsDate : Setting → Prop
  | .time _ _ _ => False
  | .date day month year => (0 ≤ year ∧ year ≤ 9999) ∧ DateExists year month day

theorem set_eq_or (c : Clock) (s : Setting) : c.set s = c ∨ c.attempt s = .ok (c.set s) := by
  unfold set
  cases c.attempt s with
  | error e => exact Or.inl rfl
  | ok c' => exact Or.inr rfl

theorem inRange_set {c : Clock} (h : c.InRange) (s : Setting) : (c.set s).InRange := by
  rcases c.set_eq_or s with hs | hs
  · rwa [hs]
  · cases s with
    | time hour minute second => exact inRange_setTime h hs
    | date day month year => exact inRange_setDate hs

theorem inRange_run {c : Clock} (h : c.InRange) (settings : List Setting) : (c.run settings).InRange := by
  induction settings generalizing c with
  | nil => exact h
  | cons s settings ih => exact ih (inRange_set h s)

theorem inFourDigits_set_iff (c : Clock) (s : Setting) :
    (c.set s).date.InFourDigits ↔ c.date.InFourDigits ∨ s.SetsDate := by
  cases s with
  | time hour minute second =>
    have hdate : (c.set (.time hour minute second)).date = c.date := by
      rcases c.set_eq_or (.time hour minute second) with hs | hs
      · rw [hs]
      · obtain ⟨t, -, ht⟩ := setTime_ok hs
        rw [ht]
    rw [hdate, Setting.SetsDate, or_false]
  | date day month year =>
    unfold Setting.SetsDate
    by_cases hsets : (0 ≤ year ∧ year ≤ 9999) ∧ DateExists year month day
    · obtain ⟨d, hd⟩ := (exists_checkedDate_iff hsets.1).mpr hsets.2
      have hset : c.set (.date day month year) = { c with date := d } := by
        rw [set, attempt, setDate, hd]
        rfl
      obtain ⟨⟨hyear, -, -⟩, hrange⟩ := checkedDate_ok hd
      have hfour : d.InFourDigits := by rwa [Date.InFourDigits, hyear]
      rw [hset]
      exact iff_of_true hfour (Or.inr hsets)
    · have hkept : c.set (.date day month year) = c := by
        rcases c.set_eq_or (.date day month year) with hs | hs
        · exact hs
        · obtain ⟨d, hd, -⟩ := setDate_ok hs
          have hrange := (checkedDate_ok hd).2
          exact absurd ⟨hrange, (exists_checkedDate_iff hrange).mp ⟨d, hd⟩⟩ hsets
      rw [hkept]
      exact ⟨Or.inl, fun h => h.resolve_right hsets⟩

theorem inFourDigits_run_iff (c : Clock) (settings : List Setting) :
    (c.run settings).date.InFourDigits ↔ c.date.InFourDigits ∨ ∃ s ∈ settings, s.SetsDate := by
  induction settings generalizing c with
  | nil => simp [run]
  | cons s settings ih =>
    have hrun : c.run (s :: settings) = (c.set s).run settings := rfl
    rw [hrun, ih, inFourDigits_set_iff, or_assoc]
    simp only [List.mem_cons, exists_eq_or_imp]

/-! ### Any text and any settings -/

/-- A clock that is read from a text and then set in any way is read back from its timestamp, which is its date and its
    time. The timestamp has nineteen characters, and the time and the date are an entry of what the clock shows, just if
    the year is in four digits. This it is if the text has no sign, and from the first date that is set. -/
theorem texts_round_trip {text : String} {start : Clock} (hstart : read? text = some start)
    (settings : List Setting) :
    let c := start.run settings
    (c.timestamp = c.dateText ++ " " ++ c.timeText ∧ (∀ x ∈ c.timestamp.toList, x.toNat < 128) ∧
        (c.timestamp.length = 19 ↔ c.date.InFourDigits)) ∧
      read? c.timestamp = some c ∧
      (Entry.timeAndDate (c.timeText ++ " " ++ c.dateText) =
        if ¬c.date.InFourDigits then .error .timeFormat
        else if c.time.second = 60 then .error (.timeOutOfRange c.time.hour c.time.minute 60)
        else .ok ⟨c.time.hour, c.time.minute, c.time.second, c.date.day, c.date.month, c.date.year.toNat⟩) ∧
      (∀ hour minute second c', c.setTime hour minute second = .ok c' →
        c'.date = c.date ∧ c'.time.hour = hour ∧ c'.time.minute = minute ∧ c'.time.second = second) ∧
      (∀ day month year c', c.setDate day month year = .ok c' →
        c'.time = c.time ∧ c'.date.day = day ∧ c'.date.month = month ∧ c'.date.year = year) ∧
      (∀ s e, c.attempt s = .error e → c.set s = c) ∧
      (c.date.InFourDigits ↔ start.date.InFourDigits ∨ ∃ s ∈ settings, s.SetsDate) ∧
      ('+' ∉ text.toList → '-' ∉ text.toList → start.date.InFourDigits) := by
  intro c
  have hrange : c.InRange := inRange_run (inRange_of_read? hstart) settings
  refine ⟨⟨timestamp_eq c, fun x => toNat_lt_of_mem_timestamp, length_timestamp_eq_iff c⟩, read?_timestamp hrange,
    timeAndDate_texts c, ?_, ?_, ?_, inFourDigits_run_iff start settings, inFourDigits_of_no_sign hstart⟩
  · rintro hour minute second c' hset
    obtain ⟨t, ht, rfl⟩ := setTime_ok hset
    exact ⟨rfl, checkedTime_ok ht⟩
  · rintro day month year c' hset
    obtain ⟨d, hd, rfl⟩ := setDate_ok hset
    obtain ⟨⟨hyear, hmonth, hday⟩, -⟩ := checkedDate_ok hd
    exact ⟨rfl, hday, hmonth, hyear⟩
  · intro s e hrefused
    rw [set, hrefused]
    rfl

/-- A leap second stays while only dates are set. -/
theorem texts_round_trip_leap_second :
    let start : Clock := ⟨⟨2024, 2, 29, by decide⟩, ⟨23, 59, 60, by decide⟩⟩
    let c := start.run [.time 24 0 0, .date 31 2 2025, .date 1 3 2025]
    read? "29/2/2024 23:59:60" = some start ∧ c.timestamp = "01/03/2025 23:59:60" ∧ read? c.timestamp = some c := by
  intro start c
  have hstart : read? "29/2/2024 23:59:60" = some start := by decide +kernel
  exact ⟨hstart, by decide +kernel, (texts_round_trip hstart _).2.1⟩

/-- A text can start the clock in a year that no setting and no entry names, and then its texts are too long. -/
theorem signed_year_too_long :
    ∃ c, read? "01/01/+10000 00:00:00" = some c ∧ c.timestamp.length = 21 ∧
      Entry.timeAndDate (c.timeText ++ " " ++ c.dateText) = .error .timeFormat ∧
      c.setDate 1 1 10000 = .error (.dateOutOfRange 1 1 10000) := by
  refine ⟨⟨⟨10000, 1, 1, by decide⟩, ⟨0, 0, 0, by decide⟩⟩, ?_, ?_, ?_, ?_⟩ <;> decide +kernel

end Clock
end FieldLogger
