import FieldLogger.Calendar.Date

/-! Days of the calendar as numbers. A date and the number of its day determine each other (`ofDayNumber_dayNumber`,
    `dayNumber_ofDayNumber`), and a week, Monday to Sunday, is known by the year that it belongs to and its number
    in that year (`weekYear_week_eq_iff`). -/

namespace FieldLogger

/-! ### Years and months -/

theorem daysBeforeYear_le {a b : Int} (h : a ≤ b) : daysBeforeYear a ≤ daysBeforeYear b := by
  unfold daysBeforeYear
  dsimp only
  omega

theorem monthLength_le (year : Int) (month : Nat) : monthLength year month ≤ 31 := by
  have hall : ∀ n ∈ monthLengths year, n ≤ 31 := by
    unfold monthLengths
    split <;> decide
  unfold monthLength
  rw [List.getD_eq_getElem?_getD]
  cases hday : (monthLengths year)[month - 1]? with
  | none => exact Nat.zero_le _
  | some n => exact hall n (List.mem_of_getElem? hday)

namespace Date

theorem day_le (d : Date) : d.day ≤ 31 := Nat.le_trans d.isDate.2.2.2 (monthLength_le d.year d.month)

theorem yearOfDay_eq {n year : Int} (h : daysBeforeYear year ≤ n) (h' : n < daysBeforeYear (year + 1)) :
    yearOfDay n = year := by
  obtain ⟨hlow, hhigh⟩ := yearOfDay_bounds n
  rcases Int.lt_trichotomy (yearOfDay n) year with hlt | heq | hgt
  · have := daysBeforeYear_le (a := yearOfDay n + 1) (b := year) (by omega)
    omega
  · exact heq
  · have := daysBeforeYear_le (a := year + 1) (b := yearOfDay n) (by omega)
    omega

/-! ### Places in the months of a year -/

theorem totalLength_take_add_lt {ls : List Nat} {i k : Nat} (h : k < ls.getD i 0) :
    totalLength (ls.take i) + k < totalLength ls := by
  induction ls generalizing i with
  | nil => exact absurd h (Nat.not_lt_zero k)
  | cons l ls ih =>
    cases i with
    | zero =>
      have hk : k < l := h
      rw [List.take_zero, totalLength, totalLength]
      omega
    | succ i =>
      have := ih (i := i) h
      rw [List.take_succ_cons, totalLength, totalLength]
      omega

/-- A place is found again by the days before it. -/
theorem place_totalLength {ls : List Nat} {i k : Nat} (h : k < ls.getD i 0) :
    place ls (totalLength (ls.take i) + k) = (i, k) := by
  induction ls generalizing i with
  | nil => exact absurd h (Nat.not_lt_zero k)
  | cons l ls ih =>
    cases i with
    | zero =>
      have hk : k < l := h
      rw [List.take_zero, totalLength, Nat.zero_add, place, if_pos hk]
    | succ i =>
      have hbeyond : ¬totalLength (List.take (i + 1) (l :: ls)) + k < l := by
        rw [List.take_succ_cons, totalLength]
        omega
      have hrest : totalLength (List.take (i + 1) (l :: ls)) + k - l = totalLength (ls.take i) + k := by
        rw [List.take_succ_cons, totalLength]
        omega
      rw [place, if_neg hbeyond, hrest, ih h]

/-- The days before a place are what was walked through to find it. -/
theorem totalLength_place {ls : List Nat} {r : Nat} (h : r < totalLength ls) :
    totalLength (ls.take (place ls r).1) + (place ls r).2 = r := by
  induction ls generalizing r with
  | nil => exact absurd h (Nat.not_lt_zero r)
  | cons l ls ih =>
    rw [totalLength] at h
    rw [place]
    split
    · exact Nat.zero_add r
    · have := ih (r := r - l) (by omega)
      rw [List.take_succ_cons, totalLength]
      omega

/-! ### Dates and their day numbers -/

theorem day_lt_monthLength (d : Date) : d.day - 1 < (monthLengths d.year).getD (d.month - 1) 0 := by
  obtain ⟨-, -, hday, hday'⟩ := d.isDate
  unfold monthLength at hday'
  omega

theorem ordinal_lt (d : Date) : d.ordinal < yearLength d.year := by
  rw [← totalLength_monthLengths]
  exact totalLength_take_add_lt d.day_lt_monthLength

theorem dayNumber_bounds (d : Date) :
    daysBeforeYear d.year ≤ d.dayNumber ∧ d.dayNumber < daysBeforeYear (d.year + 1) := by
  have hord := d.ordinal_lt
  have hnext := daysBeforeYear_succ d.year
  unfold dayNumber
  omega

theorem eq_of_parts {d d' : Date} (hyear : d.year = d'.year) (hmonth : d.month = d'.month) (hday : d.day = d'.day) :
    d = d' := by
  obtain ⟨year, month, day, _⟩ := d
  obtain ⟨year', month', day', _⟩ := d'
  cases hyear
  cases hmonth
  cases hday
  rfl

theorem ofDayNumber_dayNumber (d : Date) : ofDayNumber d.dayNumber = d := by
  obtain ⟨hlow, hhigh⟩ := d.dayNumber_bounds
  obtain ⟨hmonth, -, hday, -⟩ := d.isDate
  have hyear : yearOfDay d.dayNumber = d.year := yearOfDay_eq hlow hhigh
  have hplace : place (monthLengths d.year) (d.dayNumber - daysBeforeYear d.year).toNat = (d.month - 1, d.day - 1) := by
    have hrest : (d.dayNumber - daysBeforeYear d.year).toNat = d.ordinal := by
      unfold dayNumber
      omega
    rw [hrest]
    exact place_totalLength d.day_lt_monthLength
  refine eq_of_parts hyear ?_ ?_
  · show (place (monthLengths (yearOfDay d.dayNumber)) _).1 + 1 = d.month
    rw [hyear, hplace]
    exact Nat.sub_add_cancel hmonth
  · show (place (monthLengths (yearOfDay d.dayNumber)) _).2 + 1 = d.day
    rw [hyear, hplace]
    exact Nat.sub_add_cancel hday

theorem dayNumber_ofDayNumber (n : Int) : (ofDayNumber n).dayNumber = n := by
  have hlow := (yearOfDay_bounds n).1
  have hholds := year_holds n
  rw [← totalLength_monthLengths] at hholds
  have hplace := totalLength_place hholds
  show daysBeforeYear (yearOfDay n) + ((ofDayNumber n).ordinal : Int) = n
  have hord : (ofDayNumber n).ordinal = (n - daysBeforeYear (yearOfDay n)).toNat := hplace
  omega

/-! ### Weeks -/

/-- The number of the Monday on which the week of a date begins. -/
def monday (d : Date) : Int := d.dayNumber - d.dayNumber % 7

/-- The first Sunday of 2019 is in the week of the last Monday of 2018. -/
example : ofDayNumber (monday ⟨2019, 1, 6, by decide⟩) = ⟨2018, 12, 31, by decide⟩ := by decide

/-- The Thursday of a week lies in the year that the week belongs to. -/
theorem weekYear_bounds (d : Date) :
    daysBeforeYear d.weekYear ≤ thursday d.dayNumber ∧ thursday d.dayNumber < daysBeforeYear (d.weekYear + 1) := by
  obtain ⟨hlow, hhigh⟩ := d.dayNumber_bounds
  have hnear : d.dayNumber - 3 ≤ thursday d.dayNumber ∧ thursday d.dayNumber ≤ d.dayNumber + 3 := by
    unfold thursday
    omega
  have hyear : 365 ≤ yearLength (d.year - 1) ∧ 365 ≤ yearLength (d.year + 1) := by
    unfold yearLength
    constructor <;> split <;> decide
  have hbefore := daysBeforeYear_succ (d.year - 1)
  have hafter := daysBeforeYear_succ (d.year + 1)
  rw [Int.sub_add_cancel] at hbefore
  unfold weekYear
  dsimp only
  split
  · rw [Int.sub_add_cancel]
    omega
  · split <;> omega

theorem weekYear_eq (d : Date) : d.weekYear = yearOfDay (thursday d.dayNumber) :=
  (yearOfDay_eq d.weekYear_bounds.1 d.weekYear_bounds.2).symm

theorem week_le (d : Date) : d.week ≤ 53 := by
  obtain ⟨hlow, hhigh⟩ := d.weekYear_bounds
  have hnext := daysBeforeYear_succ d.weekYear
  have hyear : yearLength d.weekYear ≤ 366 := by
    unfold yearLength
    split <;> decide
  unfold week
  omega

/-- A week is known by the year it belongs to and its number in that year. -/
theorem weekYear_week_eq_iff {d d' : Date} :
    (d.weekYear = d'.weekYear ∧ d.week = d'.week) ↔ d.monday = d'.monday := by
  have hthursday : thursday d.dayNumber = thursday d'.dayNumber ↔ d.monday = d'.monday := by
    unfold thursday monday
    omega
  rw [← hthursday]
  constructor
  · rintro ⟨hyear, hweek⟩
    have hlow := d.weekYear_bounds.1
    have hlow' := d'.weekYear_bounds.1
    unfold week at hweek
    rw [hyear] at hweek hlow
    -- both are Thursdays of one year, and as many whole weeks after its start
    unfold thursday at *
    omega
  · intro h
    have hyear : d.weekYear = d'.weekYear := by rw [weekYear_eq, weekYear_eq, h]
    refine ⟨hyear, ?_⟩
    unfold week
    rw [h, hyear]

end Date
end FieldLogger
