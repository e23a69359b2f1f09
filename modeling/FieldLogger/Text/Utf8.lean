/-!
UTF-8 over lists of bytes. `encode` writes a text; `scan` reads bytes one at a time and tells whether
they ended between characters, inside one, or held a byte that no text has at that place; `lossy`
puts one replacement character for each part that is in no text. `takeBytes` cuts a text at a byte
budget without cutting a character.
-/

namespace FieldLogger

/-- The bytes of a file, a request or a line. -/
abbrev Bytes := List UInt8

namespace Utf8

/-! ### Writing -/

def encodeChars (cs : List Char) : Bytes := cs.flatMap String.utf8EncodeChar

def encode (s : String) : Bytes := encodeChars s.toList

/-- The number of bytes that a text takes. -/
def size : List Char → Nat
  | [] => 0
  | c :: cs => c.utf8Size + size cs

theorem length_encodeChars (cs : List Char) : (encodeChars cs).length = size cs := by
  induction cs with
  | nil => rfl
  | cons c cs ih =>
    rw [encodeChars] at ih ⊢
    rw [List.flatMap_cons, List.length_append, String.length_utf8EncodeChar, ih, size]

/-- The longest prefix of whole characters that takes at most `budget` bytes. -/
def takeBytes (budget : Nat) : List Char → List Char
  | [] => []
  | c :: cs => if c.utf8Size ≤ budget then c :: takeBytes (budget - c.utf8Size) cs else []

theorem size_takeBytes_le (budget : Nat) (cs : List Char) : size (takeBytes budget cs) ≤ budget := by
  induction cs generalizing budget with
  | nil => exact Nat.zero_le _
  | cons c cs ih =>
    unfold takeBytes
    split
    · have := ih (budget - c.utf8Size)
      simp only [size]
      omega
    · exact Nat.zero_le _

theorem takeBytes_prefix (budget : Nat) (cs : List Char) : takeBytes budget cs <+: cs := by
  induction cs generalizing budget with
  | nil => exact List.prefix_rfl
  | cons c cs ih =>
    unfold takeBytes
    split
    · exact List.cons_prefix_cons.mpr ⟨rfl, ih _⟩
    · exact List.nil_prefix

/-! ### Reading -/

/-- A character whose first bytes have been read: their bits, the bounds of the next byte and the
number of bytes that follow that one. -/
structure Unfinished where
  bits : Nat
  low : UInt8
  high : UInt8
  after : Nat

/-- What a byte does between characters. -/
inductive Lead where
  /-- It is a character by itself. -/
  | whole (c : Char)
  /-- It begins a character of several bytes. -/
  | opens (u : Unfinished)
  /-- It begins no character. -/
  | refused

/-- A byte between characters: the bounds on the second byte leave out overlong forms, surrogates and
what lies beyond the last code point. -/
def lead (b : UInt8) : Lead :=
  let n := b.toNat
  if n < 0x80 then .whole (Char.ofNat n)
  else if n < 0xC2 then .refused
  else if n < 0xE0 then .opens ⟨n - 0xC0, 0x80, 0xBF, 0⟩
  else if n = 0xE0 then .opens ⟨n - 0xE0, 0xA0, 0xBF, 1⟩
  else if n = 0xED then .opens ⟨n - 0xE0, 0x80, 0x9F, 1⟩
  else if n < 0xF0 then .opens ⟨n - 0xE0, 0x80, 0xBF, 1⟩
  else if n = 0xF0 then .opens ⟨n - 0xF0, 0x90, 0xBF, 2⟩
  else if n < 0xF4 then .opens ⟨n - 0xF0, 0x80, 0xBF, 2⟩
  else if n = 0xF4 then .opens ⟨n - 0xF0, 0x80, 0x8F, 2⟩
  else .refused

/-- A byte inside a character, if it is within the bounds. -/
def Unfinished.next (u : Unfinished) (b : UInt8) : Lead :=
  if u.low ≤ b ∧ b ≤ u.high then
    let bits := u.bits * 64 + (b.toNat - 0x80)
    match u.after with
    | 0 => .whole (Char.ofNat bits)
    | after + 1 => .opens ⟨bits, 0x80, 0xBF, after⟩
  else .refused

/-- How a run of bytes ended. -/
inductive Ending where
  /-- Between characters. -/
  | whole
  /-- Inside a character that further bytes could finish. -/
  | cut
  /-- At a byte that no text has there. -/
  | invalid
  deriving DecidableEq, Repr

/-- The characters read up to the end or up to the first fault, and how the run ended. -/
structure Scan where
  text : List Char
  ending : Ending
  deriving DecidableEq, Repr

/-- Reads bytes from between characters, or from inside one. -/
def scanFrom : Option Unfinished → Bytes → Scan
  | none, [] => ⟨[], .whole⟩
  | some _, [] => ⟨[], .cut⟩
  | open?, b :: bs =>
    let met := match open? with
      | none => lead b
      | some u => u.next b
    match met with
    | .whole c =>
      let rest := scanFrom none bs
      ⟨c :: rest.text, rest.ending⟩
    | .opens u => scanFrom (some u) bs
    | .refused => ⟨[], .invalid⟩

def scan (bs : Bytes) : Scan := scanFrom none bs

/-- The text that the bytes encode, if they encode one. -/
def decode? (bs : Bytes) : Option String :=
  let r := scan bs
  if r.ending = .whole then some (String.ofList r.text) else none

def replacement : Char := '\uFFFD'

/-- The text of the bytes with one replacement character for each longest part that begins a character
and does not finish it, and for each byte that begins none. -/
def lossyFrom : Option Unfinished → Bytes → List Char
  | none, [] => []
  | some _, [] => [replacement]
  | none, b :: bs =>
    match lead b with
    | .whole c => c :: lossyFrom none bs
    | .opens u => lossyFrom (some u) bs
    | .refused => replacement :: lossyFrom none bs
  | some u, b :: bs =>
    match u.next b with
    | .whole c => c :: lossyFrom none bs
    | .opens u => lossyFrom (some u) bs
    | .refused =>
      replacement ::
        match lead b with
        | .whole c => c :: lossyFrom none bs
        | .opens u => lossyFrom (some u) bs
        | .refused => replacement :: lossyFrom none bs

/-- Reads bytes as text, whatever they are. -/
def lossy (bs : Bytes) : String := String.ofList (lossyFrom none bs)

end Utf8
end FieldLogger
