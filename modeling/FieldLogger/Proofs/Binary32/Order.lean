import Mathlib.Algebra.Group.Nat.Defs
import FieldLogger.Binary32

/-! Patterns without their sign stand in the order of the numbers (`units_lt_units`), and the infinity is the first of
    them that is no finite number. So a bound on a pattern bounds its number, and a positive number has one pattern. -/

namespace FieldLogger
namespace Binary32

variable {x y : Binary32}

/-! ### Exponent and fraction -/

theorem fraction_lt (x : Binary32) : x.fraction < 0x800000 := Nat.mod_lt _ (Nat.zero_lt_succ _)

theorem magnitudeBits_eq (x : Binary32) : x.magnitudeBits = 0x800000 * x.exponent + x.fraction :=
  (Nat.div_add_mod _ _).symm

theorem exponent_lt (x : Binary32) : x.exponent < 256 := by
  unfold exponent magnitudeBits
  omega

theorem isFinite_iff : x.isFinite = true ↔ x.magnitudeBits < infinityBits := by
  have hexp := x.exponent_lt
  have hfraction := x.fraction_lt
  rw [magnitudeBits_eq, isFinite, bne_iff_ne, infinityBits]
  omega

theorem isNaN_iff : x.isNaN = true ↔ infinityBits < x.magnitudeBits := by
  have hexp := x.exponent_lt
  have hfraction := x.fraction_lt
  rw [magnitudeBits_eq, isNaN, Bool.and_eq_true, beq_iff_eq, bne_iff_ne, infinityBits]
  omega

/-! ### Numbers in the order of their patterns -/

/-- A larger exponent outweighs every fraction. -/
theorem units_lt_of_exponent (h : x.exponent < y.exponent) : x.units < y.units := by
  have hx := x.fraction_lt
  have hy : y.units = (0x800000 + y.fraction) * 2 ^ (y.exponent - 1) := by
    rw [units, if_neg (Nat.ne_zero_of_lt h), Nat.shiftLeft_eq]
  have hleast : 0x800000 * 2 ^ (y.exponent - 1) ≤ y.units := by
    rw [hy]
    exact Nat.mul_le_mul_right _ (Nat.le_add_right _ _)
  refine Nat.lt_of_lt_of_le ?_ hleast
  by_cases hzero : x.exponent = 0
  · rw [units, if_pos hzero]
    exact Nat.lt_of_lt_of_le hx (Nat.le_mul_of_pos_right _ (Nat.two_pow_pos _))
  · have hnext : x.exponent - 1 + 1 ≤ y.exponent - 1 := by omega
    rw [units, if_neg hzero, Nat.shiftLeft_eq]
    calc (0x800000 + x.fraction) * 2 ^ (x.exponent - 1)
      _ < 2 * 0x800000 * 2 ^ (x.exponent - 1) := Nat.mul_lt_mul_of_pos_right (by omega) (Nat.two_pow_pos _)
      _ = 0x800000 * 2 ^ (x.exponent - 1 + 1) := by rw [Nat.pow_succ]; ac_rfl
      _ ≤ 0x800000 * 2 ^ (y.exponent - 1) := Nat.mul_le_mul_left _ (Nat.pow_le_pow_right Nat.two_pos hnext)

theorem units_lt_units (h : x.magnitudeBits < y.magnitudeBits) : x.units < y.units := by
  have hx := x.fraction_lt
  have hy := y.fraction_lt
  rw [magnitudeBits_eq, magnitudeBits_eq] at h
  rcases Nat.lt_trichotomy x.exponent y.exponent with hexp | hexp | hexp
  · exact units_lt_of_exponent hexp
  · have hfraction : x.fraction < y.fraction := by omega
    rw [units, units, hexp]
    split
    · exact hfraction
    · rw [Nat.shiftLeft_eq, Nat.shiftLeft_eq]
      exact Nat.mul_lt_mul_of_pos_right (Nat.add_lt_add_left hfraction _) (Nat.two_pow_pos _)
  · omega

theorem units_eq_iff : x.units = y.units ↔ x.magnitudeBits = y.magnitudeBits := by
  constructor
  · intro h
    rcases Nat.lt_trichotomy x.magnitudeBits y.magnitudeBits with hlt | heq | hlt
    · exact absurd h (Nat.ne_of_lt (units_lt_units hlt))
    · exact heq
    · exact absurd h.symm (Nat.ne_of_lt (units_lt_units hlt))
  · intro h
    rw [units, units, exponent, fraction, exponent, fraction, h]

theorem units_eq_zero_iff : x.units = 0 ↔ x.magnitudeBits = 0 := units_eq_iff (y := ⟨0⟩)

/-! ### Signs -/

theorem value_of_not_negative (h : x.isNegative = false) : x.value = x.units := by
  simp [value, h]

theorem value_pos_iff : 0 < x.value ↔ x.isNegative = false ∧ x.magnitudeBits ≠ 0 := by
  rw [ne_eq, ← units_eq_zero_iff]
  by_cases hneg : x.isNegative = true
  · simp [value, hneg]
  · have hpos : x.isNegative = false := by simpa using hneg
    rw [value_of_not_negative hpos, and_iff_right hpos]
    omega

theorem magnitudeBits_of_not_negative (h : x.isNegative = false) : x.magnitudeBits = x.bits.toNat := by
  have hlt : x.bits.toNat < 0x80000000 := by simpa [isNegative] using h
  exact Nat.mod_eq_of_lt hlt

/-- A positive number has one pattern. -/
theorem eq_of_value (hx : 0 < x.value) (h : x.value = y.value) : x = y := by
  have hxpos := (value_pos_iff.mp hx).1
  have hypos := (value_pos_iff.mp (h ▸ hx)).1
  rw [value_of_not_negative hxpos, value_of_not_negative hypos] at h
  have hbits := units_eq_iff.mp (Int.ofNat_inj.mp h)
  rw [magnitudeBits_of_not_negative hxpos, magnitudeBits_of_not_negative hypos] at hbits
  cases x
  cases y
  exact congrArg Binary32.mk (UInt32.toNat_inj.mp hbits)

end Binary32
end FieldLogger
