import FieldLogger.Text.GraphemeExtend
import FieldLogger.Text.Unprintable

/-!
Quoted characters and texts, as messages show what was typed. A character that could not be seen, or
would change how its neighbour is seen, is written by its code point, so that a quoted text shows what
it holds.
-/

namespace FieldLogger.Text

/-- The code point of `c` lies in one of the ranges. -/
def inRanges (ranges : List (Nat × Nat)) (c : Char) : Bool :=
  ranges.any fun r => r.1 ≤ c.toNat && c.toNat ≤ r.2

/-- Characters that attach to the one before them without a place of their own. -/
def isAttached (c : Char) : Bool := inRanges graphemeExtendRanges c && !inRanges spacedExtendRanges c

def isInvisible (c : Char) : Bool := inRanges unprintableRanges c || inRanges fillerRanges c

/-- Characters that a quoted text shows by code point. -/
def isHidden (c : Char) : Bool := isAttached c || isInvisible c

/-- A character by its code point: hexadecimal, without leading zeros. -/
def codePoint (c : Char) : List Char :=
  ['\\', 'u', '{'] ++ Nat.toDigits 16 c.toNat ++ ['}']

/-- One character inside quotes of the kind `quote`. -/
def escape (quote c : Char) : List Char :=
  if c = '\x00' then ['\\', '0']
  else if c = '\t' then ['\\', 't']
  else if c = '\r' then ['\\', 'r']
  else if c = '\n' then ['\\', 'n']
  else if c = quote ∨ c = '\\' then ['\\', c]
  else if c.toNat < 0x7F ∧ 0x20 ≤ c.toNat then [c]
  else if isHidden c then codePoint c
  else [c]

def quoted (s : String) : String :=
  String.ofList ('"' :: s.toList.flatMap (escape '"') ++ ['"'])

def quotedChar (c : Char) : String :=
  String.ofList ('\'' :: escape '\'' c ++ ['\''])

end FieldLogger.Text
