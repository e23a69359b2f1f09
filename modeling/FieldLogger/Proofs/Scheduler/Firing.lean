import FieldLogger.Proofs.Scheduler.Runs

/-! When a task fires. A tick raises its flag if the ordinal is a multiple of the period, and the counter, which starts
    over after the last word, passes one in any so many ticks as the period counts (`exists_fires`). -/

namespace FieldLogger
namespace Scheduler

variable {s : Scheduler} {i : Nat} {period : UInt64}

/-- The next tick raises the flag of the task at a position, even if it is taken down before. -/
def Fires (s : Scheduler) (i : Nat) : Prop := ((s.take i).2.onTick.take i).1 = true

/-! ### One tick -/

theorem take_onTick_of_period? (h : s.period? i = some period) :
    (s.onTick.take i).1 = true ↔ (period ≠ 0 ∧ period.toNat ∣ (s.ticks + 1).toNat) ∨ (s.take i).1 = true := by
  obtain ⟨t, ht, rfl⟩ := Option.map_eq_some_iff.mp h
  refine take_onTick_iff.trans (or_congr_left ⟨?_, fun hdue => ⟨t, ht, hdue⟩⟩)
  rintro ⟨u, hu, hdue⟩
  obtain rfl := Option.some.inj (ht.symm.trans hu)
  exact hdue

theorem take_take (s : Scheduler) (i : Nat) : ((s.take i).2.take i).1 = false := by
  have hup := take_modifyTask s i i fun t => { t with pending := false }
  rw [Bool.eq_false_iff, ne_eq]
  intro htaken
  obtain ⟨t, -, hpending⟩ := hup.mp htaken
  rw [if_pos rfl] at hpending
  cases hpending

theorem fires_iff (h : s.period? i = some period) : s.Fires i ↔ period ≠ 0 ∧ period.toNat ∣ (s.ticks + 1).toNat := by
  refine (take_onTick_of_period? ((period?_take s i i).trans h)).trans (or_iff_left ?_)
  rw [take_take]
  exact Bool.false_ne_true

/-! ### Ordinals -/

/-- One of the next ordinals is a multiple of the period: the next multiple that there is, or the 0 with which the
    counter starts over. -/
theorem exists_dvd_ordinal (ticks : UInt64) (h : period ≠ 0) :
    ∃ j < period.toNat, period.toNat ∣ (ticks + UInt64.ofNat j + 1).toNat := by
  have hpos : 0 < period.toNat := UInt64.lt_iff_toNat_lt.mp (UInt64.pos_iff_ne_zero.mpr h)
  have hticks := ticks.toNat_lt
  have hrest := Nat.mod_lt ticks.toNat hpos
  have hnext : ticks.toNat + (period.toNat - 1 - ticks.toNat % period.toNat) + 1 =
      period.toNat * (ticks.toNat / period.toNat + 1) := by
    have := Nat.div_add_mod ticks.toNat period.toNat
    rw [Nat.mul_succ]
    omega
  have hordinal : ∀ j, (ticks + UInt64.ofNat j + 1).toNat = (ticks.toNat + j + 1) % UInt64.size := by
    intro j
    rw [UInt64.toNat_add, UInt64.toNat_add, UInt64.toNat_ofNat']
    change ((ticks.toNat + j % UInt64.size) % UInt64.size + 1) % UInt64.size = _
    rw [Nat.add_mod_mod, Nat.mod_add_mod]
  by_cases hfits : period.toNat * (ticks.toNat / period.toNat + 1) < UInt64.size
  · refine ⟨period.toNat - 1 - ticks.toNat % period.toNat, by omega, ?_⟩
    rw [hordinal, hnext, Nat.mod_eq_of_lt hfits]
    exact Nat.dvd_mul_right _ _
  · refine ⟨UInt64.size - 1 - ticks.toNat, by rw [← hnext] at hfits; unfold UInt64.size at *; omega, ?_⟩
    have hover : ticks.toNat + (UInt64.size - 1 - ticks.toNat) + 1 = UInt64.size := by
      unfold UInt64.size
      omega
    rw [hordinal, hover, Nat.mod_self]
    exact Nat.dvd_zero _

theorem ticks_run_add (s : Scheduler) (events : List Event) :
    (s.run events).ticks = s.ticks + UInt64.ofNat (events.count .tick) := by
  induction events using List.reverseRecOn with
  | nil => exact (UInt64.add_zero _).symm
  | append_singleton events e ih =>
    rw [run_concat, ticks_step, ih, List.count_append, List.count_singleton]
    by_cases he : e = .tick
    · subst he
      rw [if_pos rfl, beq_self_eq_true, if_pos rfl, UInt64.ofNat_add, UInt64.add_assoc]
      rfl
    · rw [if_neg he, if_neg (by simpa using he), Nat.add_zero]

/-! ### Runs -/

theorem exists_append_of_lt_count {events : List Event} {e : Event} {j : Nat} (h : j < events.count e) :
    ∃ before after, events = before ++ e :: after ∧ before.count e = j := by
  induction events generalizing j with
  | nil => cases h
  | cons e' events ih =>
    by_cases he : e' = e
    · subst he
      cases j with
      | zero => exact ⟨[], events, rfl, rfl⟩
      | succ j =>
        rw [List.count_cons_self] at h
        obtain ⟨before, after, rfl, hcount⟩ := ih (Nat.lt_of_succ_lt_succ h)
        exact ⟨e' :: before, after, rfl, by rw [List.count_cons_self, hcount]⟩
    · rw [List.count_cons_of_ne he] at h
      obtain ⟨before, after, rfl, hcount⟩ := ih h
      exact ⟨e' :: before, after, rfl, by rw [List.count_cons_of_ne he, hcount]⟩

/-- A task that keeps its period fires in any run of so many ticks, whatever else is done between them. -/
theorem exists_fires {events : List Event} (h : s.period? i = some period) (hperiod : period ≠ 0)
    (hkeeps : ∀ q, .setPeriod i q ∈ events → q = period) (hticks : period.toNat ≤ events.count .tick) :
    ∃ before after, events = before ++ .tick :: after ∧ (s.run before).Fires i := by
  obtain ⟨j, hj, hdvd⟩ := exists_dvd_ordinal s.ticks hperiod
  obtain ⟨before, after, rfl, hcount⟩ := exists_append_of_lt_count (Nat.lt_of_lt_of_le hj hticks)
  refine ⟨before, after, rfl, ?_⟩
  have hbefore : (s.run before).period? i = some period :=
    period?_run h fun q hq => hkeeps q (List.mem_append_left _ hq)
  rw [fires_iff hbefore, ticks_run_add, hcount]
  exact ⟨hperiod, hdvd⟩

/-! ### Ticks alone -/

theorem run_replicate_tick (s : Scheduler) (n : Nat) : s.run (List.replicate n .tick) = advance n s := by
  induction n generalizing s with
  | zero => rfl
  | succ n ih => exact ih s.onTick

theorem take_advance_of_up {n : Nat} (h : s.period? i = some period) (hup : (s.take i).1 = true) :
    ((advance n s).take i).1 = true := by
  induction n generalizing s with
  | zero => exact hup
  | succ n ih => exact ih ((period?_onTick s i).trans h) ((take_onTick_of_period? h).mpr (.inr hup))

/-- After so many ticks, with nothing between them, the flag is up. -/
theorem take_advance {n : Nat} (h : s.period? i = some period) (hperiod : period ≠ 0) (hn : period.toNat ≤ n) :
    ((advance n s).take i).1 = true := by
  obtain ⟨j, hj, hdvd⟩ := exists_dvd_ordinal s.ticks hperiod
  obtain ⟨rest, rfl⟩ := Nat.exists_eq_add_of_lt (Nat.lt_of_lt_of_le hj hn)
  have hbefore : (advance j s).period? i = some period := (period?_advance j s i).trans h
  have hcount : (advance j s).ticks = s.ticks + UInt64.ofNat j := by
    rw [← run_replicate_tick, ticks_run_add, List.count_replicate_self]
  have hup : ((advance j s).onTick.take i).1 = true := by
    rw [take_onTick_of_period? hbefore, hcount]
    exact .inl ⟨hperiod, hdvd⟩
  have hsplit : advance (j + rest + 1) s = advance rest (advance j s).onTick := by
    rw [← run_replicate_tick, ← run_replicate_tick, ← run_replicate_tick, Nat.add_assoc,
      ← List.replicate_append_replicate, run_append, List.replicate_succ]
    rfl
  rw [hsplit]
  exact take_advance_of_up ((period?_onTick _ i).trans hbefore) hup

end Scheduler
end FieldLogger
