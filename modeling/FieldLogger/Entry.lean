import FieldLogger.Metadata
import FieldLogger.Text.Quoted

/-!
What an operator types: names, periods, file period codes, and a time with a date. Each reader trims its
text, refuses what is out of form or out of range with the reason, and changes nothing.
-/

namespace FieldLogger

/-- Why an entry is refused. -/
inductive EntryError where
  | empty
  | nameTooLong (bytes : Nat)
  | invalidNameChar (c : Char)
  | notANumber (text : String)
  | periodOutOfRange (value : Nat)
  | invalidFileCode (value : Nat)
  | timeFormat
  | timeOutOfRange (hour minute second : Nat)
  | dateOutOfRange (day month : Nat) (year : Int)
  deriving DecidableEq, Repr

def EntryError.message : EntryError → String
  | .empty => "Entrada vazia"
  | .nameTooLong bytes => s!"Nome muito longo ({bytes} bytes, máximo {Metadata.maxNameBytes})"
  | .invalidNameChar c => "Caractere inválido no nome: " ++ Text.quotedChar c
  | .notANumber text => "Valor numérico inválido: " ++ Text.quoted text
  | .periodOutOfRange value =>
    s!"Período fora do intervalo: {value} (0–{Metadata.maxMinutes} minutos)"
  | .invalidFileCode value => s!"Código de período de arquivo inválido: {value} (0–4)"
  | .timeFormat => "Formato inválido, esperado HH:MM:SS DD/MM/YYYY"
  | .timeOutOfRange hour minute second =>
    "Hora fora do intervalo: " ++ String.ofList
      (Text.padded 2 hour ++ ':' :: Text.padded 2 minute ++ ':' :: Text.padded 2 second)
  | .dateOutOfRange day month year =>
    "Data fora do intervalo: " ++ String.ofList
      (Text.padded 2 day ++ '/' :: Text.padded 2 month ++ '/' :: Text.paddedInt 4 year)

/-- A time and a date as typed, each within its own range; the day may be missing from its month. -/
structure TimeAndDate where
  hour : Nat
  minute : Nat
  second : Nat
  day : Nat
  month : Nat
  year : Nat
  deriving DecidableEq, Repr

namespace Entry

/-! ### Names -/

/-- A character that no name holds: the separator of the record or a control. -/
def isRefusedInName (c : Char) : Bool := c == ';' || Text.isControl c

/-- A device name: not blank, at most `Metadata.maxNameBytes` bytes, no refused character. -/
def name (input : String) : Except EntryError String :=
  let cs := Text.trim input.toList
  if cs.isEmpty then .error .empty
  else if Metadata.maxNameBytes < Utf8.size cs then .error (.nameTooLong (Utf8.size cs))
  else
    match cs.find? isRefusedInName with
    | some c => .error (.invalidNameChar c)
    | none => .ok (String.ofList cs)

/-! ### Numbers -/

/-- Digits alone, of a value below `2 ^ 64`. -/
def number (input : String) : Except EntryError Nat :=
  let cs := Text.trim input.toList
  if cs.isEmpty then .error .empty
  else
    match (Text.digits? cs).filter (· < UInt64.size) with
    | some n => .ok n
    | none => .error (.notANumber (String.ofList cs))

/-- A period in minutes, at most `Metadata.maxMinutes`. -/
def minutes (input : String) : Except EntryError UInt32 :=
  (number input).bind fun n =>
    if Metadata.maxMinutes < n then .error (.periodOutOfRange n) else .ok (UInt32.ofNat n)

/-- The code of a file period. -/
def filePeriod (input : String) : Except EntryError FilePeriod :=
  (number input).bind fun n =>
    match FilePeriod.ofCode? n with
    | some p => .ok p
    | none => .error (.invalidFileCode n)

/-! ### Time and date -/

/-- A number of at most `width` digits. -/
def shortNumber? (width : Nat) (cs : List Char) : Option Nat :=
  if cs.length ≤ width then Text.digits? cs else none

/-- Three numbers between separators: two of at most two digits and one of at most `lastWidth`. -/
def three? (sep : Char) (lastWidth : Nat) (cs : List Char) : Option (Nat × Nat × Nat) :=
  match Text.splitAt sep cs with
  | [a, b, c] => do
    let a ← shortNumber? 2 a
    let b ← shortNumber? 2 b
    let c ← shortNumber? lastWidth c
    some (a, b, c)
  | _ => none

/-- `HH:MM:SS DD/MM/YYYY`, each number with or without leading zeros. -/
def timeAndDate (input : String) : Except EntryError TimeAndDate :=
  match Text.words input.toList with
  | [] => .error .empty
  | [time, date] =>
    match three? ':' 2 time, three? '/' 4 date with
    | some (hour, minute, second), some (day, month, year) =>
      if 23 < hour ∨ 59 < minute ∨ 59 < second then .error (.timeOutOfRange hour minute second)
      else if day = 0 ∨ 31 < day ∨ month = 0 ∨ 12 < month ∨ 9999 < year then
        .error (.dateOutOfRange day month year)
      else .ok ⟨hour, minute, second, day, month, year⟩
    | _, _ => .error .timeFormat
  | _ => .error .timeFormat

end Entry
end FieldLogger
