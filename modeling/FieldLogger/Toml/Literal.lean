import FieldLogger.Text.Blank
import FieldLogger.Text.Numeral
import FieldLogger.Toml.Value

/-!
TOML values that are one word: booleans, whole numbers, floats, dates and times. The word is read as a whole,
since every value ends before a character that no word holds.
-/

namespace FieldLogger.Toml

/-! ### Digits with underscores -/

/-- Digits of a kind with single underscores between them, without the underscores. -/
def joined? (isDigit : Char → Bool) (cs : List Char) : Option (List Char) :=
  let groups := Text.splitAt '_' cs
  if groups.all fun g => !g.isEmpty && g.all isDigit then some groups.flatten else none

/-- A sign, if there is one, and what follows it. -/
def splitSign : List Char → Bool × List Char
  | '-' :: rest => (true, rest)
  | '+' :: rest => (false, rest)
  | cs => (false, cs)

/-- Decimal digits of a whole number: no leading zero unless it stands alone. -/
def wholeDigits? (cs : List Char) : Option (List Char) :=
  (joined? Char.isDigit cs).filter fun ds => ds.length == 1 || ds.head? != some '0'

/-! ### Whole numbers -/

/-- The value of a digit of a base up to 16. -/
def digitValue (c : Char) : Nat :=
  if c.isDigit then c.toNat - '0'.toNat else c.toLower.toNat - 'a'.toNat + 10

def isDigitOf (base : Nat) (c : Char) : Bool :=
  (c.isDigit || ('a' ≤ c.toLower && c.toLower ≤ 'f')) && digitValue c < base

/-- The number that digits of a base write. -/
def ofDigits (base : Nat) (ds : List Char) : Nat := ds.foldl (fun n c => n * base + digitValue c) 0

/-- A whole number in one of four bases; only decimal ones take a sign. It has to fit 64 bits with sign. -/
def integer? (cs : List Char) : Option Int :=
  let read : Option Int := match cs with
    | '0' :: 'x' :: rest => (joined? (isDigitOf 16) rest).map fun ds => ofDigits 16 ds
    | '0' :: 'o' :: rest => (joined? (isDigitOf 8) rest).map fun ds => ofDigits 8 ds
    | '0' :: 'b' :: rest => (joined? (isDigitOf 2) rest).map fun ds => ofDigits 2 ds
    | _ =>
      let (negative, rest) := splitSign cs
      (wholeDigits? rest).map fun ds => if negative then -(ofDigits 10 ds : Int) else ofDigits 10 ds
  read.filter fun i => -0x8000000000000000 ≤ i ∧ i < 0x8000000000000000

/-! ### Floats -/

/-- `digits` times ten to the power of `exponent` does not reach the numbers that round to infinity in double
precision, which begin half a step above the largest one. -/
def isBelowInfinity (digits : Nat) (exponent : Int) : Bool :=
  let size := (Nat.toDigits 10 digits).length + exponent
  if digits = 0 ∨ size < 300 then true
  else if 320 < size then false
  else digits * Nat.pow 10 exponent.toNat < ((1 <<< 1024) - (1 <<< 970)) * Nat.pow 10 (-exponent).toNat

/-- A decimal number with a fraction, an exponent or both; an infinity or a NaN with or without a sign. A
positive number too large for double precision is refused. -/
def isFloat (cs : List Char) : Bool :=
  let (negative, body) := splitSign cs
  if body = ['i', 'n', 'f'] ∨ body = ['n', 'a', 'n'] then true
  else
    let mantissa := body.takeWhile fun c => c != 'e' && c != 'E'
    let power := body.drop mantissa.length
    let whole := mantissa.takeWhile (· != '.')
    let fraction := mantissa.drop whole.length
    if fraction.isEmpty && power.isEmpty then false
    else
      let fractionDigits? := match fraction with
        | [] => some []
        | _ :: ds => joined? Char.isDigit ds
      let exponent? : Option Int := match power with
        | [] => some 0
        | _ :: e =>
          let (negative, ds) := splitSign e
          (joined? Char.isDigit ds).map fun ds => if negative then -(ofDigits 10 ds : Int) else ofDigits 10 ds
      match wholeDigits? whole, fractionDigits?, exponent? with
      | some w, some f, some e => negative || isBelowInfinity (ofDigits 10 (w ++ f)) (e - f.length)
      | _, _, _ => false

/-! ### Dates and times -/

/-- A number of exactly so many digits within bounds. -/
def fixed? (width low high : Nat) (cs : List Char) : Option Nat :=
  if cs.length = width then (Text.digits? cs).filter fun n => low ≤ n && n ≤ high else none

/-- `YYYY-MM-DD`, a day of the calendar. -/
def isDate (cs : List Char) : Bool :=
  match Text.splitAt '-' cs with
  | [y, m, d] =>
    match fixed? 4 0 9999 y, fixed? 2 1 12 m, fixed? 2 1 31 d with
    | some year, some month, some day =>
      let leap := year % 4 = 0 ∧ (year % 100 ≠ 0 ∨ year % 400 = 0)
      day ≤ if month = 2 then (if leap then 29 else 28) else if month ∈ [4, 6, 9, 11] then 30 else 31
    | _, _, _ => false
  | _ => false

/-- `HH:MM:SS` with a fraction of any length; second 60 is a leap second. -/
def isTime (cs : List Char) : Bool :=
  let whole := cs.takeWhile (· != '.')
  let fraction := cs.drop whole.length
  let goodFraction := match fraction with
    | [] => true
    | _ :: ds => (Text.digits? ds).isSome
  goodFraction &&
    match Text.splitAt ':' whole with
    | [h, m, s] => (fixed? 2 0 23 h).isSome && (fixed? 2 0 59 m).isSome && (fixed? 2 0 60 s).isSome
    | _ => false

/-- `Z`, or hours and minutes from it. -/
def isOffset : List Char → Bool
  | ['Z'] | ['z'] => true
  | sign :: rest =>
    (sign == '+' || sign == '-') &&
      match Text.splitAt ':' rest with
      | [h, m] => (fixed? 2 0 23 h).isSome && (fixed? 2 0 59 m).isSome
      | _ => false
  | [] => false

/-- A date, a time, or both with or without an offset; `T`, `t` or one space stands between them. -/
def isDateTime (cs : List Char) : Bool :=
  let date := cs.take 10
  if isDate date then
    match cs.drop 10 with
    | [] => true
    | separator :: rest =>
      let time := rest.takeWhile fun c => c.isDigit || c == ':' || c == '.'
      let offset := rest.drop time.length
      (separator == 'T' || separator == 't' || separator == ' ') && isTime time &&
        (offset.isEmpty || isOffset offset)
  else isTime cs

/-! ### Words -/

def isWordChar (c : Char) : Bool :=
  c.isAlphanum || c == '_' || c == '+' || c == '-' || c == '.' || c == ':'

def ofWord? (cs : List Char) : Option Value :=
  if cs = ['t', 'r', 'u', 'e'] then some (.boolean true)
  else if cs = ['f', 'a', 'l', 's', 'e'] then some (.boolean false)
  else if isDateTime cs then some (.date (String.ofList cs))
  else if isFloat cs then some (.float (String.ofList cs))
  else (integer? cs).map .integer

/-- The word at the start of a text and what follows it; a time after a date and one space belongs to it. -/
def takeWord (cs : List Char) : List Char × List Char :=
  let word := cs.takeWhile isWordChar
  let rest := cs.drop word.length
  match rest with
  | ' ' :: time@(a :: b :: ':' :: _) =>
    if isDate word && a.isDigit && b.isDigit then
      let more := time.takeWhile isWordChar
      (word ++ ' ' :: more, time.drop more.length)
    else (word, rest)
  | _ => (word, rest)

end FieldLogger.Toml
