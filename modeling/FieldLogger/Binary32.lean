import FieldLogger.Text.Numeral

/-!
Binary floating-point numbers of 32 bits. A finite number is a whole number of units of `2 ^ -149`, so exact
arithmetic is arithmetic on whole numbers, and every operation rounds once, to the nearest number and to the
even one of two. Text has two decimal places and rounds the same way.
-/

namespace FieldLogger

/-- The quotient rounded to the nearest whole number, and to the even one of two. -/
def divNearestEven (num den : Nat) : Nat :=
  let q := num / den
  let twice := 2 * (num % den)
  if den < twice ∨ (twice = den ∧ q % 2 = 1) then q + 1 else q

/-- A pattern of sign, exponent and fraction. -/
structure Binary32 where
  bits : UInt32
  deriving DecidableEq, Repr

namespace Binary32

/-! ### The value of a pattern -/

def isNegative (x : Binary32) : Bool := 0x80000000 ≤ x.bits.toNat

def magnitudeBits (x : Binary32) : Nat := x.bits.toNat % 0x80000000

def exponent (x : Binary32) : Nat := x.magnitudeBits / 0x800000

def fraction (x : Binary32) : Nat := x.magnitudeBits % 0x800000

/-- Neither an infinity nor a NaN. -/
def isFinite (x : Binary32) : Bool := x.exponent != 255

def isNaN (x : Binary32) : Bool := x.exponent == 255 && x.fraction != 0

/-- How many units make up 1. -/
def one : Nat := 1 <<< 149

/-- The magnitude of a finite number in units. -/
def units (x : Binary32) : Nat :=
  if x.exponent = 0 then x.fraction else (0x800000 + x.fraction) <<< (x.exponent - 1)

def value (x : Binary32) : Int := if x.isNegative then -x.units else x.units

/-! ### Rounding -/

/-- The pattern of an infinity without its sign. -/
def infinityBits : Nat := 0x7F800000

/-- The pattern of the number nearest to `num / den` units. Units are whole up to `2 ^ 24` of them; beyond
that the spacing doubles with each power of two, and the count of doublings goes into the exponent. -/
def nearestBits (num den : Nat) : Nat :=
  let doublings := Nat.log2 (num / den) - 23
  min (doublings * 0x800000 + divNearestEven num (den <<< doublings)) infinityBits

/-- The number nearest to `num / den` units, with the given sign. -/
def ofUnits (negative : Bool) (num den : Nat) : Binary32 :=
  ⟨UInt32.ofNat ((if negative then 0x80000000 else 0) + nearestBits num den)⟩

/-! ### Arithmetic on finite numbers -/

def add (x y : Binary32) : Binary32 :=
  let v := x.value + y.value
  ofUnits (if v = 0 then x.isNegative && y.isNegative else v < 0) v.natAbs 1

def mul (x y : Binary32) : Binary32 :=
  ofUnits (x.isNegative != y.isNegative) (x.units * y.units) one

/-- The quotient by a number other than 0. -/
def div (x y : Binary32) : Binary32 :=
  ofUnits (x.isNegative != y.isNegative) (x.units * one) y.units

def neg (x : Binary32) : Binary32 := ⟨x.bits ^^^ 0x80000000⟩

/-- The number nearest to a decimal `num / den`. -/
def ofRatio (num : Int) (den : Nat) : Binary32 := ofUnits (num < 0) (num.natAbs * one) den

/-- A finite number brought into a range. -/
def clamp (x low high : Binary32) : Binary32 :=
  if x.value < low.value then low else if high.value < x.value then high else x

/-- The nearest whole number to one that is not negative; a half goes up. -/
def roundHalfUp (x : Binary32) : Nat := (2 * x.units + one) / (2 * one)

/-! ### Text -/

/-- Two decimal places of the exact value; the sign of a negative number is kept even when it shows as 0. -/
def chars (x : Binary32) : List Char :=
  if x.isNaN then ['N', 'a', 'N']
  else
    let sign := if x.isNegative then ['-'] else []
    if x.isFinite then
      let hundredths := divNearestEven (x.units * 100) one
      sign ++ Text.numeral (hundredths / 100) ++ '.' :: Text.padded 2 (hundredths % 100)
    else sign ++ ['i', 'n', 'f']

/-! ### The hottest plausible reading -/

/-- A reading in degrees that a working sensor can give: above 0 and below 150. -/
def isPlausible (x : Binary32) : Bool := x.isFinite && 0 < x.value && x.value < 150 * one

/-- The larger of two finite numbers. -/
def max (x y : Binary32) : Binary32 := if x.value < y.value then y else x

/-- The largest plausible reading, if there is one. -/
def hottest (readings : List Binary32) : Option Binary32 :=
  (readings.filter isPlausible).foldl (fun best t => some (best.elim t (·.max t))) none

end Binary32
end FieldLogger
