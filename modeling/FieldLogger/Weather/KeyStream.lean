/-!
A stream of pseudo-random words: the ChaCha cipher with twelve rounds, keyed from a 64-bit seed. The words of
block 0 come first, then those of block 1, and so on, so a word is known by its position.
-/

namespace FieldLogger

/-- The eight key words that a stream is made from. -/
structure KeyStream where
  key : List UInt32
  /-- How many words were drawn. -/
  drawn : Nat
  deriving DecidableEq, Repr

namespace KeyStream

/-- The 32-bit word turned left by `n` bits. -/
def rotateLeft (x n : UInt32) : UInt32 := (x <<< n) ||| (x >>> (32 - n))

/-- The 32-bit word turned right by `n` bits, where `n` may be 0. -/
def rotateRight (x n : UInt32) : UInt32 := (x >>> n) ||| (x <<< (32 - n))

/-! ### Keys from seeds -/

/-- The step of the seed's own generator. -/
def nextSeed (s : UInt64) : UInt64 := s * 6364136223846793005 + 11634580027462260723

/-- The word that a state of the seed's generator gives. -/
def seedWord (s : UInt64) : UInt32 :=
  rotateRight (((s >>> 18) ^^^ s) >>> 27).toUInt32 (s >>> 59).toUInt32

def seedWords : Nat → UInt64 → List UInt32
  | 0, _ => []
  | n + 1, s => seedWord (nextSeed s) :: seedWords n (nextSeed s)

def ofSeed (seed : UInt64) : KeyStream := ⟨seedWords 8 seed, 0⟩

/-! ### Blocks -/

abbrev Block := Vector UInt32 16

/-- One quarter round on the words at four places. -/
def quarterRound (s : Block) (a b c d : Fin 16) : Block :=
  let s := s.set a (s[a] + s[b])
  let s := s.set d (rotateLeft (s[d] ^^^ s[a]) 16)
  let s := s.set c (s[c] + s[d])
  let s := s.set b (rotateLeft (s[b] ^^^ s[c]) 12)
  let s := s.set a (s[a] + s[b])
  let s := s.set d (rotateLeft (s[d] ^^^ s[a]) 8)
  let s := s.set c (s[c] + s[d])
  s.set b (rotateLeft (s[b] ^^^ s[c]) 7)

/-- A round on the columns and one on the diagonals. -/
def doubleRound (s : Block) : Block :=
  let s := quarterRound s 0 4 8 12
  let s := quarterRound s 1 5 9 13
  let s := quarterRound s 2 6 10 14
  let s := quarterRound s 3 7 11 15
  let s := quarterRound s 0 5 10 15
  let s := quarterRound s 1 6 11 12
  let s := quarterRound s 2 7 8 13
  quarterRound s 3 4 9 14

def doubleRounds : Nat → Block → Block
  | 0, s => s
  | n + 1, s => doubleRounds n (doubleRound s)

/-- The words that every block starts with. -/
def constants : List UInt32 := [0x61707865, 0x3320646e, 0x79622d32, 0x6b206574]

/-- The block before its rounds: constants, key, counter and two zero words. -/
def initialBlock (key : List UInt32) (counter : Nat) : Block :=
  let words := constants ++ key ++ [UInt32.ofNat counter, UInt32.ofNat (counter / UInt32.size), 0, 0]
  Vector.ofFn fun i => words.getD i 0

def block (key : List UInt32) (counter : Nat) : Block :=
  let start := initialBlock key counter
  let mixed := doubleRounds 6 start
  Vector.ofFn fun i => mixed[i] + start[i]

/-! ### Drawing -/

/-- The word at a position of the stream. -/
def word (k : KeyStream) (position : Nat) : UInt32 :=
  (block k.key (position / 16)).get ⟨position % 16, Nat.mod_lt _ (by decide)⟩

def next32 (k : KeyStream) : UInt32 × KeyStream := (k.word k.drawn, { k with drawn := k.drawn + 1 })

/-- The next two words as one, the first of them low. -/
def next64 (k : KeyStream) : UInt64 × KeyStream :=
  ((k.word (k.drawn + 1)).toUInt64 <<< 32 ||| (k.word k.drawn).toUInt64, { k with drawn := k.drawn + 2 })

end KeyStream
end FieldLogger
