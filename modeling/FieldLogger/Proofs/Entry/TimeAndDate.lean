import Mathlib.Algebra.Group.Nat.Defs
import FieldLogger.Entry
import FieldLogger.Proofs.Text.Numerals
import FieldLogger.Proofs.Text.Words

/-! A time with a date as an operator types it. The form is given by `Typed`: a time `H:M:S` and a date `D/M/Y`,
    blanks between them and perhaps around them, and each number in one or two digits, the year in up to four.
    What comes of a text is given by `Judged`, and `timeAndDate_eq_iff` says that the reader of entries gives
    exactly that: an entry in form and in range is taken as the numbers that its digits write, and any other
    is refused for the first of its faults. -/

namespace FieldLogger

/-! ### Ranges -/

/-- The time is one of a day. -/
def TimeAndDate.TimeInRange (dt : TimeAndDate) : Prop := dt.hour ≤ 23 ∧ dt.minute ≤ 59 ∧ dt.second ≤ 59

/-- The day and the month are some of a year, the day perhaps not of that month. -/
def TimeAndDate.DateInRange (dt : TimeAndDate) : Prop := 1 ≤ dt.day ∧ dt.day ≤ 31 ∧ 1 ≤ dt.month ∧ dt.month ≤ 12

instance (dt : TimeAndDate) : Decidable dt.TimeInRange := inferInstanceAs (Decidable (_ ∧ _ ∧ _))

instance (dt : TimeAndDate) : Decidable dt.DateInRange := inferInstanceAs (Decidable (_ ∧ _ ∧ _ ∧ _))

namespace Entry

/-! ### Short numbers -/

/-- One to `width` decimal digits that write the number. -/
structure ShortNumber (width : Nat) (cs : List Char) (n : Nat) : Prop where
  some : cs ≠ []
  short : cs.length ≤ width
  digits : ∀ c ∈ cs, c.isDigit = true
  value : Nat.ofDigitChars 10 cs 0 = n

theorem shortNumber?_eq_some_iff {width : Nat} {cs : List Char} {n : Nat} :
    shortNumber? width cs = some n ↔ ShortNumber width cs n := by
  unfold shortNumber?
  split
  · rename_i hshort
    rw [Text.digits?_eq_some_iff]
    exact ⟨fun h => ⟨h.1, hshort, h.2.1, h.2.2⟩, fun h => ⟨h.some, h.digits, h.value⟩⟩
  · rename_i hlong
    refine ⟨fun h => ?_, fun h => absurd h.short hlong⟩
    cases h

theorem ShortNumber.lt {width : Nat} {cs : List Char} {n : Nat} (h : ShortNumber width cs n) : n < 10 ^ width := by
  rw [← h.value]
  calc Nat.ofDigitChars 10 cs 0 < (0 + 1) * 10 ^ cs.length := Text.ofDigitChars_lt h.digits 0
    _ = 10 ^ cs.length := by rw [Nat.zero_add, Nat.one_mul]
    _ ≤ 10 ^ width := Nat.pow_le_pow_right (by decide) h.short

theorem ShortNumber.not_mem {width : Nat} {cs : List Char} {n : Nat} (h : ShortNumber width cs n) {sep : Char}
    (hsep : sep.isDigit = false) : sep ∉ cs := fun hmem =>
  Text.ne_of_isDigit (h.digits sep hmem) hsep rfl

/-! ### The form of an entry -/

/-- Three numbers between two separators: two of one or two digits, and one of up to `lastWidth`. -/
def Three (sep : Char) (lastWidth : Nat) (cs : List Char) (a b c : Nat) : Prop :=
  ∃ x y z, cs = x ++ sep :: (y ++ sep :: z) ∧ ShortNumber 2 x a ∧ ShortNumber 2 y b ∧ ShortNumber lastWidth z c

/-- The text is a time and a date in that order: `H:M:S`, at least one blank, `D/M/Y`. Blanks may stand before
    and after. -/
def Typed (input : String) (dt : TimeAndDate) : Prop :=
  ∃ before time gap date after, input.toList = before ++ time ++ (gap ++ date ++ after) ∧
    Text.AllBlank before ∧ Text.AllBlank gap ∧ Text.AllBlank after ∧ gap ≠ [] ∧
    Three ':' 2 time dt.hour dt.minute dt.second ∧ Three '/' 4 date dt.day dt.month dt.year

theorem three?_eq_some_iff {sep : Char} (hsep : sep.isDigit = false) {lastWidth : Nat} {cs : List Char}
    {a b c : Nat} : three? sep lastWidth cs = some (a, b, c) ↔ Three sep lastWidth cs a b c := by
  constructor
  · intro h
    unfold three? at h
    split at h
    · rename_i x y z hsplit
      simp only [Option.bind_eq_bind, Option.bind_eq_some_iff] at h
      obtain ⟨a', ha, b', hb, c', hc, h⟩ := h
      cases h
      exact ⟨x, y, z, (Text.splitAt_eq_three.mp hsplit).1, shortNumber?_eq_some_iff.mp ha,
        shortNumber?_eq_some_iff.mp hb, shortNumber?_eq_some_iff.mp hc⟩
    · cases h
  · rintro ⟨x, y, z, rfl, ha, hb, hc⟩
    have hsplit : Text.splitAt sep (x ++ sep :: (y ++ sep :: z)) = [x, y, z] :=
      Text.splitAt_eq_three.mpr ⟨rfl, ha.not_mem hsep, hb.not_mem hsep, hc.not_mem hsep⟩
    unfold three?
    rw [hsplit]
    dsimp only
    rw [shortNumber?_eq_some_iff.mpr ha, shortNumber?_eq_some_iff.mpr hb, shortNumber?_eq_some_iff.mpr hc]
    rfl

theorem Three.isWord {sep : Char} (hsep : Text.isBlank sep = false) {lastWidth : Nat} {cs : List Char}
    {a b c : Nat} (h : Three sep lastWidth cs a b c) : Text.IsWord cs := by
  obtain ⟨x, y, z, rfl, ha, hb, hc⟩ := h
  refine ⟨by simp, fun d hd => ?_⟩
  simp only [List.mem_append, List.mem_cons] at hd
  rcases hd with hd | rfl | hd | rfl | hd
  · exact Text.isBlank_eq_false_of_isDigit (ha.digits d hd)
  · exact hsep
  · exact Text.isBlank_eq_false_of_isDigit (hb.digits d hd)
  · exact hsep
  · exact Text.isBlank_eq_false_of_isDigit (hc.digits d hd)

/-- An entry is in form if it has two words, and these are read as a time and as a date. -/
theorem typed_iff {input : String} {dt : TimeAndDate} :
    Typed input dt ↔ ∃ time date, Text.words input.toList = [time, date] ∧
      three? ':' 2 time = some (dt.hour, dt.minute, dt.second) ∧
      three? '/' 4 date = some (dt.day, dt.month, dt.year) := by
  constructor
  · rintro ⟨before, time, gap, date, after, htext, hbefore, hgap, hafter, hne, htime, hdate⟩
    refine ⟨time, date, ?_, (three?_eq_some_iff (by decide)).mpr htime, (three?_eq_some_iff (by decide)).mpr hdate⟩
    exact Text.words_eq_two_iff.mpr
      ⟨before, gap, after, htext, hbefore, hgap, hafter, hne, htime.isWord (by decide), hdate.isWord (by decide)⟩
  · rintro ⟨time, date, hwords, htime, hdate⟩
    obtain ⟨before, gap, after, htext, hbefore, hgap, hafter, hne, -, -⟩ := Text.words_eq_two_iff.mp hwords
    exact ⟨before, time, gap, date, after, htext, hbefore, hgap, hafter, hne,
      (three?_eq_some_iff (by decide)).mp htime, (three?_eq_some_iff (by decide)).mp hdate⟩

theorem Typed.not_allBlank {input : String} {dt : TimeAndDate} (h : Typed input dt) :
    ¬Text.AllBlank input.toList := by
  obtain ⟨time, date, hwords, -, -⟩ := typed_iff.mp h
  intro hblank
  rw [Text.words_eq_nil_iff.mpr hblank] at hwords
  cases hwords

theorem Typed.year_le {input : String} {dt : TimeAndDate} (h : Typed input dt) : dt.year ≤ 9999 := by
  obtain ⟨_, _, _, _, _, -, -, -, -, -, -, _, _, _, -, -, -, hyear⟩ := h
  exact Nat.le_of_lt_succ hyear.lt

/-! ### What comes of an entry -/

/-- What becomes of a text that is entered as a time and a date. A fault of form is found before one of range,
    and one of the time before one of the date. -/
inductive Judged (input : String) : Except EntryError TimeAndDate → Prop where
  | blank (h : Text.AllBlank input.toList) : Judged input (.error .empty)
  | outOfForm (h : ¬Text.AllBlank input.toList) (hform : ∀ dt, ¬Typed input dt) : Judged input (.error .timeFormat)
  | timeOutOfRange {dt : TimeAndDate} (h : Typed input dt) (htime : ¬dt.TimeInRange) :
    Judged input (.error (.timeOutOfRange dt.hour dt.minute dt.second))
  | dateOutOfRange {dt : TimeAndDate} (h : Typed input dt) (htime : dt.TimeInRange) (hdate : ¬dt.DateInRange) :
    Judged input (.error (.dateOutOfRange dt.day dt.month dt.year))
  | accepted {dt : TimeAndDate} (h : Typed input dt) (htime : dt.TimeInRange) (hdate : dt.DateInRange) :
    Judged input (.ok dt)

/-- An entry in form is checked for its time first. -/
theorem timeAndDate_of_typed {input : String} {dt : TimeAndDate} (h : Typed input dt) :
    timeAndDate input =
      if ¬dt.TimeInRange then .error (.timeOutOfRange dt.hour dt.minute dt.second)
      else if ¬dt.DateInRange then .error (.dateOutOfRange dt.day dt.month dt.year)
      else .ok dt := by
  obtain ⟨time, date, hwords, htime, hdate⟩ := typed_iff.mp h
  -- four digits write no year after 9999, so the bound on the year never refuses
  have hyear := h.year_le
  have htimeGuard : (23 < dt.hour ∨ 59 < dt.minute ∨ 59 < dt.second) ↔ ¬dt.TimeInRange := by
    unfold TimeAndDate.TimeInRange
    omega
  have hdateGuard : (dt.day = 0 ∨ 31 < dt.day ∨ dt.month = 0 ∨ 12 < dt.month ∨ 9999 < dt.year) ↔
      ¬dt.DateInRange := by
    unfold TimeAndDate.DateInRange
    omega
  unfold timeAndDate
  rw [hwords]
  dsimp only
  rw [htime, hdate]
  simp only [htimeGuard, hdateGuard]

theorem timeAndDate_of_not_typed {input : String} (h : ∀ dt, ¬Typed input dt) :
    timeAndDate input = if Text.words input.toList = [] then .error .empty else .error .timeFormat := by
  match hwords : Text.words input.toList with
  | [] =>
    unfold timeAndDate
    rw [hwords]
    rfl
  | [time, date] =>
    unfold timeAndDate
    rw [hwords]
    dsimp only
    split
    · rename_i hour minute second day month year htime hdate
      exact absurd (typed_iff.mpr ⟨time, date, hwords, htime, hdate⟩) (h ⟨hour, minute, second, day, month, year⟩)
    · rfl
  | [_] | _ :: _ :: _ :: _ =>
    unfold timeAndDate
    rw [hwords]
    rfl

theorem judged_timeAndDate (input : String) : Judged input (timeAndDate input) := by
  by_cases hform : ∃ dt, Typed input dt
  · obtain ⟨dt, h⟩ := hform
    rw [timeAndDate_of_typed h]
    split
    · exact .timeOutOfRange h ‹_›
    · rename_i htime
      split
      · exact .dateOutOfRange h (Decidable.of_not_not htime) ‹_›
      · exact .accepted h (Decidable.of_not_not htime) (Decidable.of_not_not ‹_›)
  · have hform : ∀ dt, ¬Typed input dt := fun dt h => hform ⟨dt, h⟩
    rw [timeAndDate_of_not_typed hform]
    split
    · exact .blank (Text.words_eq_nil_iff.mp ‹_›)
    · rename_i hwords
      exact .outOfForm (fun hblank => hwords (Text.words_eq_nil_iff.mpr hblank)) hform

theorem of_timeAndDate_ok {input : String} {dt : TimeAndDate} (h : timeAndDate input = .ok dt) :
    Typed input dt ∧ dt.TimeInRange ∧ dt.DateInRange := by
  have hjudged := judged_timeAndDate input
  rw [h] at hjudged
  cases hjudged with
  | accepted hform htime hdate => exact ⟨hform, htime, hdate⟩

/-- A text is taken as a time and a date, or refused with an error, exactly as it is judged. -/
theorem timeAndDate_eq_iff (input : String) (r : Except EntryError TimeAndDate) :
    timeAndDate input = r ↔ Judged input r := by
  refine ⟨fun h => h ▸ judged_timeAndDate input, fun h => ?_⟩
  cases h with
  | blank hblank =>
    rw [timeAndDate_of_not_typed fun dt h => h.not_allBlank hblank, if_pos (Text.words_eq_nil_iff.mpr hblank)]
  | outOfForm hblank hform =>
    rw [timeAndDate_of_not_typed hform, if_neg fun hwords => hblank (Text.words_eq_nil_iff.mp hwords)]
  | timeOutOfRange h htime => rw [timeAndDate_of_typed h, if_pos htime]
  | dateOutOfRange h htime hdate => rw [timeAndDate_of_typed h, if_neg (not_not_intro htime), if_pos hdate]
  | accepted h htime hdate =>
    rw [timeAndDate_of_typed h, if_neg (not_not_intro htime), if_neg (not_not_intro hdate)]

end Entry
end FieldLogger
