import FieldLogger.Proofs.Binary32.Order

/-! Which of the readings of a host's sensors is reported (`hottest_exact`): the largest of those that a working sensor
    can give, wherever it stands among them. Two such readings that are equally hot are the same pattern, so neither the
    order of the readings nor the others matter. -/

namespace FieldLogger
namespace Binary32

variable {x y : Binary32}

/-! ### Readings that a working sensor can give -/

/-- Finite, above 0 degrees and below 150. -/
structure Plausible (t : Binary32) : Prop where
  finite : t.isFinite = true
  above : 0 < t.value
  below : t.value < 150 * one

/-- The pattern of 150 degrees. -/
example : value ⟨0x43160000⟩ = 150 * one := by decide +kernel

theorem isPlausible_iff : x.isPlausible = true ↔ x.Plausible := by
  simp only [isPlausible, Bool.and_eq_true, decide_eq_true_eq]
  exact ⟨fun ⟨⟨hfinite, habove⟩, hbelow⟩ => ⟨hfinite, habove, hbelow⟩, fun h => ⟨⟨h.finite, h.above⟩, h.below⟩⟩

/-- What a reading can be that no working sensor gives. -/
inductive Absurd (t : Binary32) : Prop where
  | nan (h : t.isNaN = true)
  | infinite (h : t.magnitudeBits = infinityBits)
  | negative (h : t.isNegative = true)
  | zero (h : t.magnitudeBits = 0)
  | tooLarge (h : 150 * one ≤ t.value)

theorem absurd_iff : x.Absurd ↔ ¬x.Plausible := by
  constructor
  · rintro (h | h | h | h | h) ⟨hfinite, habove, hbelow⟩
    · exact Nat.lt_asymm (isNaN_iff.mp h) (isFinite_iff.mp hfinite)
    · exact Nat.ne_of_lt (isFinite_iff.mp hfinite) h
    · simp [(value_pos_iff.mp habove).1] at h
    · exact (value_pos_iff.mp habove).2 h
    · omega
  · intro h
    rcases Nat.lt_trichotomy x.magnitudeBits infinityBits with hfinite | hinfinite | hnan
    · by_cases hneg : x.isNegative = true
      · exact .negative hneg
      by_cases hzero : x.magnitudeBits = 0
      · exact .zero hzero
      have habove : 0 < x.value := value_pos_iff.mpr ⟨by simpa using hneg, hzero⟩
      exact .tooLarge (Int.not_lt.mp fun hbelow => h ⟨isFinite_iff.mpr hfinite, habove, hbelow⟩)
    · exact .infinite hinfinite
    · exact .nan (isNaN_iff.mpr hnan)

/-! ### The largest of numbers -/

theorem max_eq_or (x y : Binary32) : x.max y = x ∨ x.max y = y := by
  unfold max
  split
  · exact Or.inr rfl
  · exact Or.inl rfl

theorem value_le_max (x y : Binary32) : x.value ≤ (x.max y).value ∧ y.value ≤ (x.max y).value := by
  unfold max
  split <;> omega

theorem foldl_max_mem (x : Binary32) (ts : List Binary32) : ts.foldl max x ∈ x :: ts := by
  induction ts generalizing x with
  | nil => exact List.mem_singleton_self x
  | cons t ts ih =>
    rw [List.foldl_cons]
    rcases List.mem_cons.mp (ih (x.max t)) with h | h
    · rw [h]
      rcases max_eq_or x t with hmax | hmax <;> simp [hmax]
    · exact List.mem_cons_of_mem _ (List.mem_cons_of_mem _ h)

theorem value_le_foldl_max (x : Binary32) (ts : List Binary32) : ∀ t ∈ x :: ts, t.value ≤ (ts.foldl max x).value := by
  induction ts generalizing x with
  | nil => simp
  | cons t ts ih =>
    obtain ⟨hx, ht⟩ := value_le_max x t
    have hmax := ih (x.max t) (x.max t) (List.mem_cons_self ..)
    intro u hu
    rcases List.mem_cons.mp hu with rfl | hu
    · exact Int.le_trans hx hmax
    · rcases List.mem_cons.mp hu with rfl | hu
      · exact Int.le_trans ht hmax
      · exact ih (x.max t) u (List.mem_cons_of_mem _ hu)

/-- Once there is a reading, the search goes on from it. -/
theorem foldl_some (x : Binary32) (ts : List Binary32) :
    ts.foldl (fun best t => some (best.elim t (·.max t))) (some x) = some (ts.foldl max x) := by
  induction ts generalizing x with
  | nil => rfl
  | cons t ts ih => exact ih (x.max t)

/-! ### The hottest reading -/

/-- A plausible reading among readings that no plausible one of them exceeds. -/
structure IsHottest (readings : List Binary32) (best : Binary32) : Prop where
  mem : best ∈ readings
  inRange : best.Plausible
  le : ∀ t ∈ readings, t.Plausible → t.value ≤ best.value

theorem mem_filter_isPlausible {readings : List Binary32} :
    x ∈ readings.filter isPlausible ↔ x ∈ readings ∧ x.Plausible := by
  rw [List.mem_filter, isPlausible_iff]

/-- The two ways in which the search ends. -/
theorem hottest_cases (readings : List Binary32) :
    (hottest readings = none ∧ ∀ t ∈ readings, ¬t.Plausible) ∨
      ∃ best, hottest readings = some best ∧ IsHottest readings best := by
  unfold hottest
  cases hfilter : readings.filter isPlausible with
  | nil =>
    refine Or.inl ⟨rfl, fun t ht hrange => ?_⟩
    have hmem := mem_filter_isPlausible.mpr ⟨ht, hrange⟩
    rw [hfilter] at hmem
    cases hmem
  | cons first rest =>
    have hmem := foldl_max_mem first rest
    rw [← hfilter, mem_filter_isPlausible] at hmem
    refine Or.inr ⟨rest.foldl max first, foldl_some first rest, hmem.1, hmem.2, fun t ht hrange => ?_⟩
    apply value_le_foldl_max
    rw [← hfilter]
    exact mem_filter_isPlausible.mpr ⟨ht, hrange⟩

theorem IsHottest.unique {readings : List Binary32} (hx : IsHottest readings x) (hy : IsHottest readings y) : x = y :=
  eq_of_value hx.inRange.above
    (Int.le_antisymm (hy.le x hx.mem hx.inRange) (hx.le y hy.mem hy.inRange))

/-- It is a matter of the plausible readings alone, not of their order or their number. -/
theorem IsHottest.congr {readings others : List Binary32} (hsame : ∀ t, t.Plausible → (t ∈ others ↔ t ∈ readings))
    (h : IsHottest readings x) : IsHottest others x where
  mem := (hsame x h.inRange).mpr h.mem
  inRange := h.inRange
  le t ht hrange := h.le t ((hsame t hrange).mp ht) hrange

theorem hottest_eq_none_iff {readings : List Binary32} : hottest readings = none ↔ ∀ t ∈ readings, ¬t.Plausible := by
  rcases hottest_cases readings with ⟨hnone, hall⟩ | ⟨best, hsome, hbest⟩
  · exact iff_of_true hnone hall
  · refine iff_of_false (by simp [hsome]) fun hall => hall best hbest.mem hbest.inRange

theorem hottest_eq_some_iff {readings : List Binary32} : hottest readings = some x ↔ IsHottest readings x := by
  rcases hottest_cases readings with ⟨hnone, hall⟩ | ⟨best, hsome, hbest⟩
  · exact iff_of_false (by simp [hnone]) fun h => hall x h.mem h.inRange
  · rw [hsome, Option.some.injEq]
    exact ⟨fun h => h ▸ hbest, fun h => hbest.unique h⟩

theorem hottest_congr {readings others : List Binary32} (hsame : ∀ t, t.Plausible → (t ∈ others ↔ t ∈ readings)) :
    hottest others = hottest readings := by
  ext best
  rw [hottest_eq_some_iff, hottest_eq_some_iff]
  exact ⟨IsHottest.congr fun t ht => (hsame t ht).symm, IsHottest.congr hsame⟩

/-- There is no hottest reading just if none is finite and strictly between 0 and 150 degrees; otherwise it is the one
    plausible reading that none of the others exceeds. It is the same in every order of the readings, and a reading that
    is no number, infinite, negative, zero or too large never has a part in it. -/
theorem hottest_exact (readings : List Binary32) :
    (hottest readings = none ↔ ∀ t ∈ readings, ¬t.Plausible) ∧
      (∀ best, hottest readings = some best ↔ IsHottest readings best) ∧
      (∀ others, readings.Perm others → hottest others = hottest readings) ∧
      (∀ t : Binary32, t.Absurd ↔ ¬t.Plausible) ∧
      ∀ others, (∀ t : Binary32, ¬t.Absurd → (t ∈ others ↔ t ∈ readings)) → hottest others = hottest readings := by
  refine ⟨hottest_eq_none_iff, fun best => hottest_eq_some_iff, fun others hperm => ?_, fun t => absurd_iff,
    fun others hsame => ?_⟩
  · exact hottest_congr fun t _ => hperm.mem_iff.symm
  · refine hottest_congr fun t ht => hsame t ?_
    rw [absurd_iff]
    exact fun hnot => hnot ht

/-- Of 41, 250, no number, 55.5 and -3 degrees. -/
example : hottest [⟨0x42240000⟩, ⟨0x437A0000⟩, ⟨0x7FC00000⟩, ⟨0x425E0000⟩, ⟨0xC0400000⟩] = some ⟨0x425E0000⟩ := by
  decide +kernel

end Binary32
end FieldLogger
