import FieldLogger.Calendar.Date
import FieldLogger.Entry

/-!
The clock of the device: a date and a time of day, set apart from each other. Its texts are
`DD/MM/YYYY`, `HH:MM:SS` and both with a space between, and `Clock.read?` reads the last. A clock read
from a text may stand in a leap second, which is shown as second 60 until the time is set.
-/

namespace FieldLogger

/-! ### Time of day -/

/-- A second of a day; second 60 is a leap second. -/
structure TimeOfDay where
  hour : Nat
  minute : Nat
  second : Nat
  isTime : hour < 24 ∧ minute < 60 ∧ second ≤ 60
  deriving DecidableEq, Repr

namespace TimeOfDay

/-- The time of that hour, minute and second, a leap second included. -/
def of? (hour minute second : Nat) : Option TimeOfDay :=
  if h : hour < 24 ∧ minute < 60 ∧ second ≤ 60 then some ⟨hour, minute, second, h⟩ else none

/-- `HH:MM:SS`. -/
def chars (t : TimeOfDay) : List Char :=
  Text.padded 2 t.hour ++ ':' :: Text.padded 2 t.minute ++ ':' :: Text.padded 2 t.second

end TimeOfDay

/-! ### Texts of dates -/

/-- A year: four digits, or a sign and at least four digits outside 0 to 9999. -/
def yearChars (year : Int) : List Char :=
  if year < 0 then '-' :: Text.padded 4 year.natAbs
  else if year ≤ 9999 then Text.padded 4 year.natAbs
  else '+' :: Text.padded 4 year.natAbs

/-- `DD/MM/YYYY`. -/
def Date.chars (d : Date) : List Char :=
  Text.padded 2 d.day ++ '/' :: Text.padded 2 d.month ++ '/' :: yearChars d.year

/-! ### The clock -/

/-- The instant that the clock shows. -/
structure Clock where
  date : Date
  time : TimeOfDay
  deriving DecidableEq, Repr

namespace Clock

/-- `HH:MM:SS`. -/
def timeText (c : Clock) : String := String.ofList c.time.chars

/-- `DD/MM/YYYY`. -/
def dateText (c : Clock) : String := String.ofList c.date.chars

/-- `DD/MM/YYYY HH:MM:SS`. -/
def timestamp (c : Clock) : String := String.ofList (c.date.chars ++ ' ' :: c.time.chars)

/-- The time that a clock can be set to: no leap second. -/
def checkedTime (hour minute second : Nat) : Except EntryError TimeOfDay :=
  if h : hour < 24 ∧ minute < 60 ∧ second < 60 then
    .ok ⟨hour, minute, second, h.1, h.2.1, Nat.le_of_lt h.2.2⟩
  else .error (.timeOutOfRange hour minute second)

/-- The date that a clock can be set to: one of the calendar, of the years 0 to 9999. -/
def checkedDate (day month : Nat) (year : Int) : Except EntryError Date :=
  if year < 0 ∨ 9999 < year then .error (.dateOutOfRange day month year)
  else
    match Date.of? year month day with
    | some d => .ok d
    | none => .error (.dateOutOfRange day month year)

/-- Sets the time and keeps the date. -/
def setTime (c : Clock) (hour minute second : Nat) : Except EntryError Clock :=
  (checkedTime hour minute second).map fun t => { c with time := t }

/-- Sets the date and keeps the time. -/
def setDate (c : Clock) (day month : Nat) (year : Int) : Except EntryError Clock :=
  (checkedDate day month year).map fun d => { c with date := d }

/-! ### Reading a clock text -/

/-- A number of one to `width` digits after any blanks, and what follows it. -/
def readNumber? (width : Nat) (cs : List Char) : Option (Nat × List Char) :=
  let cs := cs.dropWhile Text.isBlank
  let ds := (cs.take width).takeWhile Char.isDigit
  if ds.isEmpty then none else some (Nat.ofDigitChars 10 ds 0, cs.drop ds.length)

/-- A year after any blanks: one to four digits, or a sign and any number of digits. -/
def readYear? (cs : List Char) : Option (Int × List Char) :=
  let signed (rest : List Char) : Option (Nat × List Char) :=
    let ds := rest.takeWhile Char.isDigit
    if ds.isEmpty then none else some (Nat.ofDigitChars 10 ds 0, rest.drop ds.length)
  match cs.dropWhile Text.isBlank with
  | '-' :: rest => (signed rest).map fun (n, rest) => (-n, rest)
  | '+' :: rest => (signed rest).map fun (n, rest) => (n, rest)
  | cs => (readNumber? 4 cs).map fun (n, rest) => (n, rest)

/-- What follows the character `c`. -/
def skip? (c : Char) : List Char → Option (List Char)
  | x :: rest => if x = c then some rest else none
  | [] => none

/-- The farthest year from 0, either way, that a clock text can name. -/
def maxYear : Int := 262142

/-- Reads `DD/MM/YYYY HH:MM:SS`; blanks may stand before each number. -/
def read? (text : String) : Option Clock := do
  let (day, cs) ← readNumber? 2 text.toList
  let cs ← skip? '/' cs
  let (month, cs) ← readNumber? 2 cs
  let cs ← skip? '/' cs
  let (year, cs) ← readYear? cs
  let (hour, cs) ← readNumber? 2 cs
  let cs ← skip? ':' cs
  let (minute, cs) ← readNumber? 2 cs
  let cs ← skip? ':' cs
  let (second, cs) ← readNumber? 2 cs
  if cs ≠ [] ∨ year < -maxYear - 1 ∨ maxYear < year then none
  else
    let date ← Date.of? year month day
    let time ← TimeOfDay.of? hour minute second
    some ⟨date, time⟩

end Clock
end FieldLogger
