import FieldLogger.Registry

/-! Reading back what was encoded: the scan of the bytes of a text finds that text, and the first line of
    a file that holds one line and its newline is that line. -/

namespace FieldLogger
namespace Utf8

/-! ### Bytes of one character -/

theorem toNat_ofNat_of_lt {n : Nat} (h : n < 256) : (UInt8.ofNat n).toNat = n := by
  rw [UInt8.toNat_ofNat']
  omega

theorem lead_one {n : Nat} (h : n ≤ 0x7F) : lead (UInt8.ofNat n) = .whole (Char.ofNat n) := by
  unfold lead
  dsimp only
  rw [toNat_ofNat_of_lt (by omega), if_pos (by omega)]

theorem lead_two {n : Nat} (h : 0x7F < n) (h' : n ≤ 0x7FF) :
    lead (UInt8.ofNat (n / 64 % 32 + 192)) = .opens ⟨n / 64, 0x80, 0xBF, 0⟩ := by
  have hb : (UInt8.ofNat (n / 64 % 32 + 192)).toNat = n / 64 + 192 := by
    rw [toNat_ofNat_of_lt (by omega)]
    omega
  unfold lead
  dsimp only
  rw [hb, if_neg (by omega), if_neg (by omega), if_pos (by omega), Nat.add_sub_cancel]

/-- The bounds on the second of three bytes leave in every code point that is no surrogate. -/
theorem lead_three {n : Nat} (h : 0x7FF < n) (h' : n ≤ 0xFFFF) (hs : n < 0xD800 ∨ 0xDFFF < n) :
    ∃ low high : UInt8, lead (UInt8.ofNat (n / 4096 % 16 + 224)) = .opens ⟨n / 4096, low, high, 1⟩ ∧
      low.toNat ≤ n / 64 % 64 + 128 ∧ n / 64 % 64 + 128 ≤ high.toNat := by
  have hb : (UInt8.ofNat (n / 4096 % 16 + 224)).toNat = n / 4096 + 224 := by
    rw [toNat_ofNat_of_lt (by omega)]
    omega
  unfold lead
  dsimp only
  rw [hb, if_neg (by omega), if_neg (by omega), if_neg (by omega)]
  by_cases h0 : n / 4096 = 0
  · exact ⟨0xA0, 0xBF, by rw [if_pos (by omega), Nat.add_sub_cancel], by simp; omega, by simp; omega⟩
  · rw [if_neg (by omega)]
    by_cases hd : n / 4096 = 13
    · exact ⟨0x80, 0x9F, by rw [if_pos (by omega), Nat.add_sub_cancel], by simp, by simp; omega⟩
    · exact ⟨0x80, 0xBF, by rw [if_neg (by omega), if_pos (by omega), Nat.add_sub_cancel], by simp, by simp; omega⟩

/-- The bounds on the second of four bytes leave in every code point up to the last. -/
theorem lead_four {n : Nat} (h : 0xFFFF < n) (h' : n < 0x110000) :
    ∃ low high : UInt8, lead (UInt8.ofNat (n / 262144 % 8 + 240)) = .opens ⟨n / 262144, low, high, 2⟩ ∧
      low.toNat ≤ n / 4096 % 64 + 128 ∧ n / 4096 % 64 + 128 ≤ high.toNat := by
  have hb : (UInt8.ofNat (n / 262144 % 8 + 240)).toNat = n / 262144 + 240 := by
    rw [toNat_ofNat_of_lt (by omega)]
    omega
  unfold lead
  dsimp only
  rw [hb, if_neg (by omega), if_neg (by omega), if_neg (by omega), if_neg (by omega), if_neg (by omega),
    if_neg (by omega)]
  by_cases h0 : n / 262144 = 0
  · exact ⟨0x90, 0xBF, by rw [if_pos (by omega), Nat.add_sub_cancel], by simp; omega, by simp; omega⟩
  · rw [if_neg (by omega)]
    by_cases h4 : n / 262144 = 4
    · exact ⟨0x80, 0x8F, by rw [if_neg (by omega), if_pos (by omega), Nat.add_sub_cancel], by simp, by simp; omega⟩
    · exact ⟨0x80, 0xBF, by rw [if_pos (by omega), Nat.add_sub_cancel], by simp, by simp; omega⟩

theorem next_tail {bits after n : Nat} {low high : UInt8} (hl : low.toNat ≤ n % 64 + 128)
    (hh : n % 64 + 128 ≤ high.toNat) :
    Unfinished.next ⟨bits, low, high, after⟩ (UInt8.ofNat (n % 64 + 128)) =
      match after with
      | 0 => .whole (Char.ofNat (bits * 64 + n % 64))
      | k + 1 => .opens ⟨bits * 64 + n % 64, 0x80, 0xBF, k⟩ := by
  have hb : (UInt8.ofNat (n % 64 + 128)).toNat = n % 64 + 128 := toNat_ofNat_of_lt (by omega)
  have hin : low ≤ UInt8.ofNat (n % 64 + 128) ∧ UInt8.ofNat (n % 64 + 128) ≤ high := by
    rw [UInt8.le_iff_toNat_le, UInt8.le_iff_toNat_le, hb]
    exact ⟨hl, hh⟩
  unfold Unfinished.next
  cases after <;> rw [if_pos hin, hb, Nat.add_sub_cancel]

/-! ### Scanning a character -/

theorem scanFrom_lead_opens {b : UInt8} {u : Unfinished} {rest : Bytes} (h : lead b = .opens u) :
    scanFrom none (b :: rest) = scanFrom (some u) rest := by
  simp only [scanFrom, h]

theorem scanFrom_tail {bits after n : Nat} {low high : UInt8} {rest : Bytes} (hl : low.toNat ≤ n % 64 + 128)
    (hh : n % 64 + 128 ≤ high.toNat) :
    scanFrom (some ⟨bits, low, high, after + 1⟩) (UInt8.ofNat (n % 64 + 128) :: rest) =
      scanFrom (some ⟨bits * 64 + n % 64, 0x80, 0xBF, after⟩) rest := by
  simp only [scanFrom, next_tail hl hh]

theorem scanFrom_last {bits n : Nat} {low high : UInt8} {rest : Bytes} (hl : low.toNat ≤ n % 64 + 128)
    (hh : n % 64 + 128 ≤ high.toNat) :
    scanFrom (some ⟨bits, low, high, 0⟩) (UInt8.ofNat (n % 64 + 128) :: rest) =
      ⟨Char.ofNat (bits * 64 + n % 64) :: (scan rest).text, (scan rest).ending⟩ := by
  simp only [scanFrom, next_tail hl hh, scan]

theorem scan_utf8EncodeChar (c : Char) (rest : Bytes) :
    scan (String.utf8EncodeChar c ++ rest) = ⟨c :: (scan rest).text, (scan rest).ending⟩ := by
  have hc : Char.ofNat c.val.toNat = c := Char.ofNat_toNat c
  have hv : c.val.toNat < 0xD800 ∨ 0xDFFF < c.val.toNat ∧ c.val.toNat < 0x110000 := c.valid
  have hl : ∀ m : Nat, (0x80 : UInt8).toNat ≤ m % 64 + 128 := fun m => by simp
  have hh : ∀ m : Nat, m % 64 + 128 ≤ (0xBF : UInt8).toNat := fun m => by simp; omega
  unfold String.utf8EncodeChar
  dsimp only
  generalize c.val.toNat = n at hc hv ⊢
  by_cases h1 : n ≤ 0x7F
  · rw [if_pos h1]
    simp only [List.cons_append, List.nil_append, scan, scanFrom, lead_one h1, hc]
  · rw [if_neg h1]
    by_cases h2 : n ≤ 0x7FF
    · have hn : n / 64 * 64 + n % 64 = n := by omega
      rw [if_pos h2]
      show scanFrom none (_ :: _ :: rest) = _
      rw [scanFrom_lead_opens (lead_two (by omega) h2), scanFrom_last (hl n) (hh n), hn, hc]
    · rw [if_neg h2]
      by_cases h3 : n ≤ 0xFFFF
      · have hn : (n / 4096 * 64 + n / 64 % 64) * 64 + n % 64 = n := by omega
        obtain ⟨low, high, hlead, hlow, hhigh⟩ := lead_three (n := n) (by omega) h3 (by omega)
        rw [if_pos h3]
        show scanFrom none (_ :: _ :: _ :: rest) = _
        rw [scanFrom_lead_opens hlead, scanFrom_tail hlow hhigh, scanFrom_last (hl n) (hh n), hn, hc]
      · have hn : ((n / 262144 * 64 + n / 4096 % 64) * 64 + n / 64 % 64) * 64 + n % 64 = n := by omega
        obtain ⟨low, high, hlead, hlow, hhigh⟩ := lead_four (n := n) (by omega) (by omega)
        rw [if_neg h3]
        show scanFrom none (_ :: _ :: _ :: _ :: rest) = _
        rw [scanFrom_lead_opens hlead, scanFrom_tail hlow hhigh, scanFrom_tail (hl (n / 64)) (hh (n / 64)),
          scanFrom_last (hl n) (hh n), hn, hc]

/-! ### Scanning a text -/

/-- The bytes of a text are read as that text, whatever follows them. -/
theorem scan_encodeChars_append (cs : List Char) (rest : Bytes) :
    scan (encodeChars cs ++ rest) = ⟨cs ++ (scan rest).text, (scan rest).ending⟩ := by
  induction cs with
  | nil => rfl
  | cons c cs ih =>
    have hcons : encodeChars (c :: cs) = String.utf8EncodeChar c ++ encodeChars cs := List.flatMap_cons
    rw [hcons, List.append_assoc, scan_utf8EncodeChar, ih]
    rfl

theorem scan_encodeChars (cs : List Char) : scan (encodeChars cs) = ⟨cs, .whole⟩ := by
  have h := scan_encodeChars_append cs []
  rw [List.append_nil] at h
  rw [h]
  exact congrArg (Scan.mk · .whole) (List.append_nil cs)

theorem encodeChars_append (cs ds : List Char) : encodeChars (cs ++ ds) = encodeChars cs ++ encodeChars ds :=
  List.flatMap_append

theorem encode_append (s t : String) : encode (s ++ t) = encode s ++ encode t := by
  rw [encode, String.toList_append, encodeChars_append]
  rfl

/-! ### Ends of lines -/

/-- A byte below 0x80 stands for itself: it is no part of a longer character. -/
theorem toNat_of_mem_utf8EncodeChar {c : Char} {b : UInt8} (hb : b ∈ String.utf8EncodeChar c) (hlow : b.toNat < 0x80) :
    b.toNat = c.val.toNat := by
  unfold String.utf8EncodeChar at hb
  dsimp only at hb
  generalize c.val.toNat = n at hb ⊢
  by_cases h1 : n ≤ 0x7F
  · rw [if_pos h1, List.mem_singleton] at hb
    rw [hb, toNat_ofNat_of_lt (by omega)]
  · -- Every byte of a longer character is at least 0x80.
    have high : ∀ k, b = UInt8.ofNat k → 0x80 ≤ k → k < 256 → False := by
      rintro k rfl hk hk'
      rw [toNat_ofNat_of_lt hk'] at hlow
      omega
    rw [if_neg h1] at hb
    exfalso
    by_cases h2 : n ≤ 0x7FF
    · simp only [if_pos h2, List.mem_cons, List.not_mem_nil, or_false] at hb
      rcases hb with hb | hb <;> exact high _ hb (by omega) (by omega)
    · rw [if_neg h2] at hb
      by_cases h3 : n ≤ 0xFFFF
      · simp only [if_pos h3, List.mem_cons, List.not_mem_nil, or_false] at hb
        rcases hb with hb | hb | hb <;> exact high _ hb (by omega) (by omega)
      · simp only [if_neg h3, List.mem_cons, List.not_mem_nil, or_false] at hb
        rcases hb with hb | hb | hb | hb <;> exact high _ hb (by omega) (by omega)

theorem ofNat_mem_of_mem_encodeChars {cs : List Char} {b : UInt8} (hb : b ∈ encodeChars cs) (hlow : b.toNat < 0x80) :
    Char.ofNat b.toNat ∈ cs := by
  obtain ⟨c, hc, hbc⟩ := List.mem_flatMap.mp hb
  rwa [toNat_of_mem_utf8EncodeChar hbc hlow, ← Char.toNat, Char.ofNat_toNat]

/-- The characters at which a line of a file ends. -/
def EndsLine (c : Char) : Prop := c = '\n' ∨ c = '\x00'

theorem of_mem_encodeChars {cs : List Char} (h : ∀ c ∈ cs, ¬EndsLine c) {b : UInt8} (hb : b ∈ encodeChars cs) :
    (b != 10 && b != 0) = true := by
  rw [Bool.and_eq_true, bne_iff_ne, bne_iff_ne]
  constructor <;> rintro rfl
  · exact h '\n' (ofNat_mem_of_mem_encodeChars hb (by decide)) (Or.inl rfl)
  · exact h '\x00' (ofNat_mem_of_mem_encodeChars hb (by decide)) (Or.inr rfl)

theorem takeWhile_encodeChars {cs : List Char} (h : ∀ c ∈ cs, ¬EndsLine c) (rest : Bytes) :
    (encodeChars cs ++ 10 :: rest).takeWhile (fun b => b != 10 && b != 0) = encodeChars cs := by
  rw [List.takeWhile_append_of_pos fun _ => of_mem_encodeChars h, List.takeWhile_cons_of_neg (by decide), List.append_nil]

end Utf8

theorem firstLine_encode {cs : List Char} {limit : Nat} (h : ∀ c ∈ cs, ¬Utf8.EndsLine c)
    (hsize : Utf8.size cs < limit) :
    firstLine ((Utf8.encode (String.ofList cs ++ "\n")).take limit) = .ok (String.ofList cs) := by
  have hbytes : Utf8.encode (String.ofList cs ++ "\n") = Utf8.encodeChars cs ++ [10] := by
    rw [Utf8.encode_append, Utf8.encode, String.toList_ofList]
    rfl
  have hfits : (Utf8.encodeChars cs ++ [10]).length ≤ limit := by
    rw [List.length_append, Utf8.length_encodeChars, List.length_singleton]
    omega
  unfold firstLine
  rw [hbytes, List.take_of_length_le hfits, Utf8.takeWhile_encodeChars h, Utf8.scan_encodeChars]
  rfl

end FieldLogger
