/-!
Decimal numerals: reading them in bounded widths and writing them in fixed ones. `digits?` reads a
non-empty run of digits; `unsigned?` also takes one leading `+` and refuses what does not fit below
its bound; `padded` and `paddedInt` write at least so many characters, the sign of a negative number
being one of them.
-/

namespace FieldLogger.Text

/-- The decimal digits of a number, most significant first. -/
abbrev numeral (n : Nat) : List Char := Nat.toDigits 10 n

/-- The number that a non-empty run of decimal digits writes; leading zeros are allowed. -/
def digits? (cs : List Char) : Option Nat :=
  if !cs.isEmpty && cs.all Char.isDigit then some (Nat.ofDigitChars 10 cs 0) else none

/-- The number below `bound` that digits write, after at most one leading `+`. -/
def unsigned? (bound : Nat) (cs : List Char) : Option Nat :=
  let body := match cs with
    | '+' :: rest => rest
    | _ => cs
  (digits? body).filter (· < bound)

/-- At least `width` characters, filled with zeros on the left. -/
def padded (width n : Nat) : List Char :=
  let ds := numeral n
  List.replicate (width - ds.length) '0' ++ ds

/-- At least `width` characters, the sign included, filled with zeros after the sign. -/
def paddedInt (width : Nat) (i : Int) : List Char :=
  if i < 0 then '-' :: padded (width - 1) i.natAbs else padded width i.natAbs

theorem le_length_padded (width n : Nat) : width ≤ (padded width n).length := by
  simp only [padded, List.length_append, List.length_replicate]
  omega

end FieldLogger.Text
