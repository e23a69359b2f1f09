import Mathlib.Algebra.Order.Ring.Nat
import FieldLogger.Scheduler

/-! Minutes and milliseconds in ticks. No word overflows on the way, and ticks of up to a minute turn every minute that
    is more into at least one tick that is more. -/

namespace FieldLogger

variable {tickMs : UInt64}

/-! ### Minutes -/

/-- The product is below 2^48. -/
theorem toNat_mul_msPerMinute (minutes : UInt32) : (minutes.toUInt64 * msPerMinute).toNat = minutes.toNat * 60000 := by
  have hminutes := minutes.toNat_lt
  rw [UInt64.toNat_mul, UInt32.toNat_toUInt64]
  change minutes.toNat * 60000 % UInt64.size = _
  exact Nat.mod_eq_of_lt (by unfold UInt64.size; omega)

theorem toNat_minutesToTicks (minutes : UInt32) (h : tickMs ≠ 0) :
    (minutesToTicks minutes tickMs).toNat = minutes.toNat * 60000 / tickMs.toNat := by
  unfold minutesToTicks
  rw [if_neg h, UInt64.toNat_div, toNat_mul_msPerMinute]

/-- The ticks are short of the minutes by less than one of them. -/
theorem minutesToTicks_mul (minutes : UInt32) (h : tickMs ≠ 0) :
    (minutesToTicks minutes tickMs).toNat * tickMs.toNat ≤ minutes.toNat * 60000 ∧
      minutes.toNat * 60000 < ((minutesToTicks minutes tickMs).toNat + 1) * tickMs.toNat := by
  rw [toNat_minutesToTicks minutes h]
  have hpos : 0 < tickMs.toNat := UInt64.lt_iff_toNat_lt.mp (UInt64.pos_iff_ne_zero.mpr h)
  refine ⟨Nat.div_mul_le_self _ _, ?_⟩
  rw [Nat.mul_comm (_ + 1)]
  exact Nat.lt_mul_div_succ _ hpos

section
variable (h : tickMs ≠ 0) (hle : tickMs ≤ msPerMinute)
include h hle

theorem minutesToTicks_lt {minutes more : UInt32} (hless : minutes < more) :
    minutesToTicks minutes tickMs < minutesToTicks more tickMs := by
  have hpos : 0 < tickMs.toNat := UInt64.lt_iff_toNat_lt.mp (UInt64.pos_iff_ne_zero.mpr h)
  have htick : tickMs.toNat ≤ 60000 := UInt64.le_iff_toNat_le.mp hle
  have hminute : minutes.toNat + 1 ≤ more.toNat := UInt32.lt_iff_toNat_lt.mp hless
  rw [UInt64.lt_iff_toNat_lt, toNat_minutesToTicks minutes h, toNat_minutesToTicks more h]
  calc minutes.toNat * 60000 / tickMs.toNat
      < minutes.toNat * 60000 / tickMs.toNat + 1 := Nat.lt_succ_self _
    _ = (minutes.toNat * 60000 + tickMs.toNat) / tickMs.toNat := (Nat.add_div_right _ hpos).symm
    _ ≤ more.toNat * 60000 / tickMs.toNat := Nat.div_le_div_right (by omega)

theorem minutesToTicks_eq_zero_iff {minutes : UInt32} : minutesToTicks minutes tickMs = 0 ↔ minutes = 0 := by
  have hzero : minutesToTicks 0 tickMs = 0 := by
    rw [← UInt64.toNat_inj, toNat_minutesToTicks 0 h]
    exact Nat.zero_div _
  constructor
  · intro hticks
    by_contra hminutes
    have hmore := minutesToTicks_lt h hle (UInt32.pos_iff_ne_zero.mpr hminutes)
    rw [hticks, hzero] at hmore
    exact UInt64.lt_irrefl _ hmore
  · rintro rfl
    exact hzero

end

/-! ### Milliseconds -/

theorem one_le_msToTicks {ms : UInt64} (h : tickMs ≠ 0) (hms : ms ≠ 0) : 1 ≤ msToTicks ms tickMs := by
  unfold msToTicks
  rw [if_neg (not_or.mpr ⟨h, hms⟩)]
  change 1 ≤ if ms / tickMs ≤ 1 then 1 else ms / tickMs
  split
  · exact UInt64.le_refl 1
  · rename_i hless
    exact UInt64.le_of_lt (UInt64.not_le.mp hless)

end FieldLogger
