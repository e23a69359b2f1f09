import Mathlib.Algebra.Group.Nat.Defs
import Mathlib.Data.List.TakeWhile
import FieldLogger.Text.Numeral
import FieldLogger.Proofs.Text.Trimming

/-! Numerals. Digits are read as the number that they write, a plus sign before them or not (`unsigned?_eq_some_iff`). So
    many digits write numbers below a power of ten, and a number below that power is written in that width exactly, in
    one way. -/

namespace FieldLogger.Text

/-! ### Reading numerals -/

theorem isBlank_eq_false_of_isDigit {c : Char} (h : c.isDigit = true) : isBlank c = false := by
  have hn : 48 ≤ c.toNat ∧ c.toNat ≤ 57 := Char.isDigit_iff_toNat.mp h
  unfold isBlank
  simp
  omega

theorem ne_of_isDigit {c d : Char} (hc : c.isDigit = true) (hd : d.isDigit = false) : c ≠ d := by
  rintro rfl
  rw [hc] at hd
  cases hd

theorem isDigit_of_mem_numeral {n : Nat} {c : Char} (h : c ∈ numeral n) : c.isDigit = true :=
  Nat.isDigit_of_mem_toDigits (by decide) (by decide) h

theorem not_mem_numeral {c : Char} (h : c.isDigit = false) (n : Nat) : c ∉ numeral n := fun hc =>
  ne_of_isDigit (isDigit_of_mem_numeral hc) h rfl

theorem trim_numeral (n : Nat) : trim (numeral n) = numeral n :=
  trim_eq_self
    (fun _ hc => isBlank_eq_false_of_isDigit (isDigit_of_mem_numeral (List.mem_of_head? hc)))
    (fun _ hc => isBlank_eq_false_of_isDigit (isDigit_of_mem_numeral (List.mem_of_getLast? hc)))

theorem numeral_inj {m n : Nat} (h : numeral m = numeral n) : m = n := by
  have hvalue := congrArg (Nat.ofDigitChars 10 · 0) h
  simpa only [Nat.ofDigitChars_ten_toDigits] using hvalue

theorem digits?_eq_some_iff {cs : List Char} {n : Nat} :
    digits? cs = some n ↔ cs ≠ [] ∧ (∀ c ∈ cs, c.isDigit = true) ∧ Nat.ofDigitChars 10 cs 0 = n := by
  have hguard : (!cs.isEmpty && cs.all Char.isDigit) = true ↔ cs ≠ [] ∧ ∀ c ∈ cs, c.isDigit = true := by
    rw [Bool.and_eq_true, List.all_eq_true, Bool.not_eq_true', List.isEmpty_eq_false_iff]
  unfold digits?
  split
  · rename_i h
    obtain ⟨hne, hdigits⟩ := hguard.mp h
    rw [Option.some.injEq]
    exact ⟨fun hn => ⟨hne, hdigits, hn⟩, fun hn => hn.2.2⟩
  · rename_i h
    refine ⟨fun hn => ?_, fun hn => absurd (hguard.mpr ⟨hn.1, hn.2.1⟩) h⟩
    cases hn

theorem unsigned?_numeral {bound n : Nat} (h : n < bound) : unsigned? bound (numeral n) = some n := by
  have hdigits : digits? (numeral n) = some n := by
    have hall : (numeral n).all Char.isDigit = true := List.all_eq_true.mpr fun _ => isDigit_of_mem_numeral
    unfold digits?
    rw [hall, Nat.ofDigitChars_ten_toDigits]
    simp
  unfold unsigned?
  split
  · rename_i rest hplus
    exact absurd (hplus ▸ List.mem_cons_self : '+' ∈ numeral n) (not_mem_numeral (by decide) n)
  · show (digits? (numeral n)).filter (· < bound) = some n
    rw [hdigits, Option.filter_some, if_pos (decide_eq_true h)]

/-- The text writes a number below the bound in decimal digits, perhaps after a plus sign. -/
def Writes (bound : Nat) (cs : List Char) (n : Nat) : Prop :=
  n < bound ∧ ∃ ds, (cs = ds ∨ cs = '+' :: ds) ∧ ds ≠ [] ∧ (∀ c ∈ ds, c.isDigit = true) ∧ Nat.ofDigitChars 10 ds 0 = n

theorem unsigned?_eq_some_iff {bound n : Nat} {cs : List Char} : unsigned? bound cs = some n ↔ Writes bound cs n := by
  have hplus : ∀ ds : List Char, ¬∀ c ∈ '+' :: ds, c.isDigit = true := fun ds h =>
    ne_of_isDigit (h '+' List.mem_cons_self) (by decide) rfl
  unfold unsigned?
  dsimp only
  rw [Option.filter_eq_some_iff, decide_eq_true_eq, digits?_eq_some_iff, Writes]
  split
  · rename_i ds
    constructor
    · rintro ⟨hds, hlt⟩
      exact ⟨hlt, ds, Or.inr rfl, hds⟩
    · rintro ⟨hlt, ds', rfl | hcs, hne, hdigits, hn⟩
      · exact absurd hdigits (hplus ds)
      · cases hcs
        exact ⟨⟨hne, hdigits, hn⟩, hlt⟩
  · rename_i hnot
    constructor
    · rintro ⟨hcs, hlt⟩
      exact ⟨hlt, cs, Or.inl rfl, hcs⟩
    · rintro ⟨hlt, ds, rfl | rfl, hds⟩
      · exact ⟨hds, hlt⟩
      · exact absurd rfl (hnot ds)

/-! ### Numerals of so many digits -/

theorem ofDigitChars_lt {cs : List Char} (h : ∀ c ∈ cs, c.isDigit = true) (init : Nat) :
    Nat.ofDigitChars 10 cs init < (init + 1) * 10 ^ cs.length := by
  induction cs generalizing init with
  | nil =>
    rw [Nat.ofDigitChars_nil, List.length_nil, Nat.pow_zero]
    omega
  | cons c cs ih =>
    have hdigit : c.toNat - '0'.toNat < 10 := by
      have hn : 48 ≤ c.toNat ∧ c.toNat ≤ 57 := Char.isDigit_iff_toNat.mp (h c List.mem_cons_self)
      have hzero : '0'.toNat = 48 := rfl
      omega
    rw [Nat.ofDigitChars_cons, List.length_cons, Nat.pow_succ']
    calc Nat.ofDigitChars 10 cs (10 * init + (c.toNat - '0'.toNat))
        < (10 * init + (c.toNat - '0'.toNat) + 1) * 10 ^ cs.length := ih (fun d hd => h d (List.mem_cons_of_mem _ hd)) _
      _ ≤ (init + 1) * 10 * 10 ^ cs.length := Nat.mul_le_mul_right _ (by omega)
      _ = (init + 1) * (10 * 10 ^ cs.length) := Nat.mul_assoc ..

theorem isDigit_of_mem_padded {width n : Nat} {c : Char} (h : c ∈ padded width n) : c.isDigit = true := by
  rcases List.mem_append.mp h with h | h
  · rw [List.eq_of_mem_replicate h]
    decide
  · exact isDigit_of_mem_numeral h

theorem padded_ne_nil (width n : Nat) : padded width n ≠ [] :=
  List.append_ne_nil_of_right_ne_nil _ Nat.toDigits_ne_nil

theorem ofDigitChars_padded (width n : Nat) : Nat.ofDigitChars 10 (padded width n) 0 = n := by
  unfold padded
  rw [Nat.ofDigitChars_append, Nat.ofDigitChars_replicate_zero, Nat.mul_zero, Nat.ofDigitChars_ten_toDigits]

theorem padded_inj {width m n : Nat} (h : padded width m = padded width n) : m = n := by
  rw [← ofDigitChars_padded width m, h, ofDigitChars_padded]

theorem length_padded {width n : Nat} (hw : 0 < width) (h : n < 10 ^ width) : (padded width n).length = width := by
  have hnumeral : (numeral n).length ≤ width := (Nat.length_toDigits_le_iff (by decide) hw).mpr h
  rw [padded, List.length_append, List.length_replicate]
  omega

theorem head?_padded (width n : Nat) (rest : List Char) :
    ∃ c, (padded width n ++ rest).head? = some c ∧ c.isDigit = true := by
  obtain ⟨c, cs, hcs⟩ := List.exists_cons_of_ne_nil (padded_ne_nil width n)
  refine ⟨c, ?_, isDigit_of_mem_padded (hcs ▸ List.mem_cons_self)⟩
  rw [hcs, List.cons_append, List.head?_cons]

theorem takeWhile_isDigit_padded (width n : Nat) : (padded width n).takeWhile Char.isDigit = padded width n :=
  List.takeWhile_eq_self_iff.mpr fun _ => isDigit_of_mem_padded

end FieldLogger.Text
