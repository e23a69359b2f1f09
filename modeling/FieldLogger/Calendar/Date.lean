/-!
Dates of the Gregorian calendar, extended to all years. A `Date` exists in its month. `dayNumber` counts
days from 1 January of year 1, a Monday, and `ofDayNumber` finds the date of a day: the year is the one
whose first day is the last not after it.
-/

namespace FieldLogger

/-! ### Lengths of years and months -/

/-- A year of 366 days. -/
def isLeapYear (year : Int) : Bool :=
  year % 4 = 0 && (year % 100 ≠ 0 || year % 400 = 0)

/-- The days of each month of a year. -/
def monthLengths (year : Int) : List Nat :=
  [31, if isLeapYear year then 29 else 28, 31, 30, 31, 30, 31, 31, 30, 31, 30, 31]

/-- The days of a month counted from 1. -/
def monthLength (year : Int) (month : Nat) : Nat :=
  (monthLengths year).getD (month - 1) 0

/-- The days from the start of year 1 to the start of `year`. -/
def daysBeforeYear (year : Int) : Int :=
  let k := year - 1
  365 * k + k / 4 - k / 100 + k / 400

def yearLength (year : Int) : Nat := if isLeapYear year then 366 else 365

/-- The days of so many months in a row. -/
def totalLength : List Nat → Nat
  | [] => 0
  | l :: ls => l + totalLength ls

theorem totalLength_monthLengths (year : Int) : totalLength (monthLengths year) = yearLength year := by
  unfold monthLengths yearLength
  split <;> rfl

theorem daysBeforeYear_succ (year : Int) :
    daysBeforeYear (year + 1) = daysBeforeYear year + yearLength year := by
  unfold daysBeforeYear yearLength isLeapYear
  by_cases h4 : year % 4 = 0 <;> by_cases h100 : year % 100 = 0 <;>
    by_cases h400 : year % 400 = 0 <;> simp [h4, h100, h400] <;> omega

/-! ### Dates -/

/-- The month and the day exist in that year. -/
def DateExists (year : Int) (month day : Nat) : Prop :=
  1 ≤ month ∧ month ≤ 12 ∧ 1 ≤ day ∧ day ≤ monthLength year month

instance (year : Int) (month day : Nat) : Decidable (DateExists year month day) :=
  inferInstanceAs (Decidable (_ ∧ _ ∧ _ ∧ _))

/-- A day of the calendar. -/
structure Date where
  year : Int
  month : Nat
  day : Nat
  isDate : DateExists year month day
  deriving DecidableEq, Repr

namespace Date

/-- The date of that year, month and day, if there is one. -/
def of? (year : Int) (month day : Nat) : Option Date :=
  if h : DateExists year month day then some ⟨year, month, day, h⟩ else none

/-- The days of the year before the date. -/
def ordinal (d : Date) : Nat :=
  totalLength ((monthLengths d.year).take (d.month - 1)) + (d.day - 1)

/-- The days from 1 January of year 1 to the date. -/
def dayNumber (d : Date) : Int := daysBeforeYear d.year + d.ordinal

/-! ### From day numbers to dates -/

/-- The year that holds the day: the average length of a year finds it to within one. -/
def yearOfDay (n : Int) : Int :=
  let year := 400 * n / 146097 + 1
  if n < daysBeforeYear year then year - 1
  else if n < daysBeforeYear (year + 1) then year
  else year + 1

theorem yearOfDay_bounds (n : Int) :
    daysBeforeYear (yearOfDay n) ≤ n ∧ n < daysBeforeYear (yearOfDay n + 1) := by
  unfold yearOfDay daysBeforeYear
  dsimp only
  split
  · omega
  · split <;> omega

/-- Walks through lengths: the position of the one that holds `r` and what is left of `r` there. -/
def place : List Nat → Nat → Nat × Nat
  | [], r => (0, r)
  | l :: ls, r => if r < l then (0, r) else ((place ls (r - l)).1 + 1, (place ls (r - l)).2)

theorem place_bounds {ls : List Nat} {r : Nat} (h : r < totalLength ls) :
    (place ls r).1 < ls.length ∧ (place ls r).2 < ls.getD (place ls r).1 0 := by
  induction ls generalizing r with
  | nil => exact absurd h (Nat.not_lt_zero r)
  | cons l ls ih =>
    rw [totalLength] at h
    unfold place
    split
    · simp_all
    · have := ih (r := r - l) (by omega)
      simpa using this

theorem exists_of_place {year : Int} {r : Nat} (h : r < yearLength year) :
    DateExists year ((place (monthLengths year) r).1 + 1) ((place (monthLengths year) r).2 + 1) := by
  have hb := @place_bounds (monthLengths year) r (by rw [totalLength_monthLengths]; exact h)
  have hlen : (monthLengths year).length = 12 := rfl
  refine ⟨by omega, by omega, by omega, ?_⟩
  simp only [monthLength, Nat.add_sub_cancel]
  omega

theorem year_holds (n : Int) : (n - daysBeforeYear (yearOfDay n)).toNat < yearLength (yearOfDay n) := by
  have := yearOfDay_bounds n
  have := daysBeforeYear_succ (yearOfDay n)
  omega

def ofDayNumber (n : Int) : Date :=
  let year := yearOfDay n
  let r := (n - daysBeforeYear year).toNat
  let p := place (monthLengths year) r
  ⟨year, p.1 + 1, p.2 + 1, exists_of_place (year_holds n)⟩

/-! ### Weeks -/

/-- The Thursday of the week, Monday to Sunday, that holds a day. -/
def thursday (n : Int) : Int := n - n % 7 + 3

/-- The year that a week belongs to, which is the year of its Thursday. -/
def weekYear (d : Date) : Int :=
  let t := thursday d.dayNumber
  if t < daysBeforeYear d.year then d.year - 1
  else if t < daysBeforeYear (d.year + 1) then d.year
  else d.year + 1

/-- The number of the week in the year it belongs to, from 1. -/
def week (d : Date) : Nat :=
  ((thursday d.dayNumber - daysBeforeYear d.weekYear) / 7).toNat + 1

end Date
end FieldLogger
