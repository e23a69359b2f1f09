import Mathlib.Algebra.Group.Nat.Defs
import FieldLogger.Text.Utf8
import FieldLogger.Proofs.Text.Numerals

/-! How many bytes a text takes: those of its parts, no more than the text it was cut or trimmed from, and one
    for each digit of a numeral. -/

namespace FieldLogger.Utf8

/-! ### Parts of a text -/

theorem size_cons (c : Char) (cs : List Char) : size (c :: cs) = c.utf8Size + size cs := rfl

theorem size_append (cs ds : List Char) : size (cs ++ ds) = size cs + size ds := by
  induction cs with
  | nil => exact (Nat.zero_add _).symm
  | cons c cs ih => rw [List.cons_append, size_cons, size_cons, ih, Nat.add_assoc]

theorem size_le_of_isPrefix {cs ds : List Char} (h : cs <+: ds) : size cs ≤ size ds := by
  obtain ⟨rest, rfl⟩ := h
  rw [size_append]
  exact Nat.le_add_right _ _

theorem size_le_of_isSuffix {cs ds : List Char} (h : cs <:+ ds) : size cs ≤ size ds := by
  obtain ⟨rest, rfl⟩ := h
  rw [size_append]
  exact Nat.le_add_left _ _

theorem size_trim_le (cs : List Char) : size (Text.trim cs) ≤ size cs :=
  Nat.le_trans (size_le_of_isPrefix (Text.trim_isPrefix cs)) (size_le_of_isSuffix (List.dropWhile_suffix _))

theorem takeBytes_of_size_le {budget : Nat} {cs : List Char} (h : size cs ≤ budget) : takeBytes budget cs = cs := by
  induction cs generalizing budget with
  | nil => rfl
  | cons c cs ih =>
    rw [size_cons] at h
    rw [takeBytes, if_pos (by omega), ih (by omega)]

theorem head?_takeBytes {budget : Nat} {c : Char} (hb : 4 ≤ budget) (cs : List Char) :
    (takeBytes budget (c :: cs)).head? = some c := by
  rw [takeBytes, if_pos (Nat.le_trans c.utf8Size_le_four hb), List.head?_cons]

/-! ### Cut texts -/

/-- What is kept of a text that is cut at a byte budget: the longest prefix of whole characters within it. -/
structure Fitting (budget : Nat) (cs kept : List Char) : Prop where
  isPrefix : kept <+: cs
  fits : size kept ≤ budget
  longest : ∀ p, p <+: cs → size p ≤ budget → p <+: kept

theorem isPrefix_takeBytes {budget : Nat} {p cs : List Char} (hp : p <+: cs) (h : size p ≤ budget) :
    p <+: takeBytes budget cs := by
  induction cs generalizing budget p with
  | nil =>
    obtain rfl := List.prefix_nil.mp hp
    exact List.nil_prefix
  | cons c cs ih =>
    cases p with
    | nil => exact List.nil_prefix
    | cons d p =>
      obtain ⟨rfl, hrest⟩ := List.cons_prefix_cons.mp hp
      rw [size_cons] at h
      rw [takeBytes, if_pos (by omega), List.cons_prefix_cons]
      exact ⟨rfl, ih hrest (by omega)⟩

theorem fitting_takeBytes (budget : Nat) (cs : List Char) : Fitting budget cs (takeBytes budget cs) where
  isPrefix := takeBytes_prefix budget cs
  fits := size_takeBytes_le budget cs
  longest _ := isPrefix_takeBytes

theorem fitting_iff {budget : Nat} {cs kept : List Char} : Fitting budget cs kept ↔ takeBytes budget cs = kept := by
  refine ⟨fun h => ?_, fun h => h ▸ fitting_takeBytes budget cs⟩
  have hcut := fitting_takeBytes budget cs
  have hlonger := h.longest _ hcut.isPrefix hcut.fits
  exact hlonger.eq_of_length_le (isPrefix_takeBytes h.isPrefix h.fits).length_le

/-! ### Numerals -/

theorem size_of_ascii {cs : List Char} (h : ∀ c ∈ cs, c.toNat < 128) : size cs = cs.length := by
  induction cs with
  | nil => rfl
  | cons c cs ih =>
    have hc : c.utf8Size = 1 := by
      rw [Char.utf8Size_eq_one_iff, UInt32.le_iff_toNat_le]
      exact Nat.le_of_lt_succ (h c List.mem_cons_self)
    rw [size_cons, hc, ih fun d hd => h d (List.mem_cons_of_mem _ hd), List.length_cons, Nat.add_comm]

theorem size_of_isDigit {cs : List Char} (h : ∀ c ∈ cs, c.isDigit = true) : size cs = cs.length := by
  refine size_of_ascii fun c hc => ?_
  have hn : 48 ≤ c.toNat ∧ c.toNat ≤ 57 := Char.isDigit_iff_toNat.mp (h c hc)
  omega

theorem size_numeral_le {n k : Nat} (hk : 0 < k) (h : n < 10 ^ k) : size (Text.numeral n) ≤ k := by
  rw [size_of_isDigit fun _ => Text.isDigit_of_mem_numeral]
  exact (Nat.length_toDigits_le_iff (by decide) hk).mpr h

theorem size_padded_le {width n k : Nat} (hk : 0 < k) (hw : width ≤ k) (h : n < 10 ^ k) :
    size (Text.padded width n) ≤ k := by
  have hnumeral : (Text.numeral n).length ≤ k := (Nat.length_toDigits_le_iff (by decide) hk).mpr h
  rw [size_of_isDigit fun _ => Text.isDigit_of_mem_padded, Text.padded, List.length_append, List.length_replicate]
  omega

/-! ### Strings -/

theorem utf8ByteSize_ofList (cs : List Char) : (String.ofList cs).utf8ByteSize = size cs := by
  induction cs with
  | nil => rfl
  | cons c cs ih =>
    have hcons : String.ofList (c :: cs) = String.singleton c ++ String.ofList cs := by
      rw [← List.singleton_append, String.ofList_append, String.singleton_eq_ofList]
    rw [hcons, String.utf8ByteSize_append, String.utf8ByteSize_singleton, ih, size_cons]

theorem length_encode (s : String) : (encode s).length = s.utf8ByteSize := by
  rw [encode, length_encodeChars, ← utf8ByteSize_ofList, String.ofList_toList]

end FieldLogger.Utf8
