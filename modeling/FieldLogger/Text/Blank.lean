/-!
White space and what is cut at it. `isBlank` is the Unicode property `White_Space`; entries, records
and clock texts are trimmed and split by it. `trim` leaves a text whose ends are not blank, and
`words` is what stands between runs of blanks.
-/

namespace FieldLogger.Text

/-- The characters with the Unicode property `White_Space`. -/
def isBlank (c : Char) : Bool :=
  let n := c.toNat
  (9 ≤ n && n ≤ 13) || n == 0x20 || n == 0x85 || n == 0xA0 || n == 0x1680 ||
    (0x2000 ≤ n && n ≤ 0x200A) || n == 0x2028 || n == 0x2029 || n == 0x202F || n == 0x205F ||
    n == 0x3000

/-- The general category `Cc`. -/
def isControl (c : Char) : Bool :=
  let n := c.toNat
  n < 0x20 || (0x7F ≤ n && n < 0xA0)

/-- The text without the characters at its end that satisfy `p`. -/
def dropWhileEnd (p : Char → Bool) (cs : List Char) : List Char :=
  (cs.reverse.dropWhile p).reverse

/-- The text without the blanks at either end. -/
def trim (cs : List Char) : List Char :=
  dropWhileEnd isBlank (cs.dropWhile isBlank)

/-- The pieces between the characters that satisfy `p`: one more than there are such characters. -/
def splitWhere (p : Char → Bool) : List Char → List (List Char)
  | [] => [[]]
  | c :: cs =>
    if p c then [] :: splitWhere p cs
    else
      match splitWhere p cs with
      | [] => [[c]]
      | piece :: pieces => (c :: piece) :: pieces

theorem splitWhere_ne_nil (p : Char → Bool) : ∀ cs : List Char, splitWhere p cs ≠ []
  | [] => by simp [splitWhere]
  | c :: cs => by
    unfold splitWhere
    split
    · simp
    · split <;> simp

/-- The pieces between the separators `sep`. -/
def splitAt (sep : Char) (cs : List Char) : List (List Char) :=
  splitWhere (· == sep) cs

def words (cs : List Char) : List (List Char) :=
  (splitWhere isBlank cs).filter (!·.isEmpty)

end FieldLogger.Text
