import Mathlib.Data.List.Basic
import Mathlib.Data.List.Induction
import FieldLogger.Proofs.Scheduler.Periods

/-! What a run of ticks, registrations, changes of period, triggers and takes does to the tasks of a scheduler. A flag
    is up exactly when something raised it after the last take of its task (`take_run`). -/

namespace FieldLogger
namespace Scheduler

/-! ### Events and runs -/

/-- What is done to a scheduler; tasks are known by their positions. -/
inductive Event where
  | tick
  | register (t : PeriodicTask)
  | setPeriod (i : Nat) (period : UInt64)
  | trigger (i : Nat)
  | take (i : Nat)
  deriving DecidableEq, Repr

/-- The position of the one task that an event is for. -/
def Event.position? : Event → Option Nat
  | .tick | .register _ => none
  | .setPeriod i _ | .trigger i | .take i => some i

/-- A registration that is refused changes nothing. -/
def step (s : Scheduler) : Event → Scheduler
  | .tick => s.onTick
  | .register t => (s.register t).toOption.getD s
  | .setPeriod i period => s.setPeriod i period
  | .trigger i => s.trigger i
  | .take i => (s.take i).2

def run (s : Scheduler) (events : List Event) : Scheduler := events.foldl step s

/-- How many takes of the task at a position find its flag up. -/
def taken (i : Nat) : Scheduler → List Event → Nat
  | _, [] => 0
  | s, e :: events => (if e = .take i ∧ (s.take i).1 = true then 1 else 0) + taken i (s.step e) events

/-- The event raises the flag of the task at a position: by hand, by the tick whose ordinal is a multiple of the
    period that the task has then, or by registering the task there with its flag up. -/
def Raises (s : Scheduler) (i : Nat) : Event → Prop
  | .tick => ∃ t, s.task? i = some t ∧ t.period ≠ 0 ∧ t.period.toNat ∣ s.ticks.toNat + 1
  | .trigger j => j = i ∧ i < s.tasks.length
  | .register t => s.tasks.length = i ∧ i < maxTasks ∧ t.pending = true
  | .setPeriod .. | .take _ => False

/-- Something raised the flag of the task at a position, and the task was not taken since. -/
def Raised (i : Nat) (s : Scheduler) (events : List Event) : Prop :=
  ∃ before e after, events = before ++ e :: after ∧ (s.run before).Raises i e ∧ .take i ∉ after

theorem run_concat (s : Scheduler) (events : List Event) (e : Event) :
    s.run (events ++ [e]) = (s.run events).step e := by
  rw [run, List.foldl_append]
  rfl

theorem run_append (s : Scheduler) (a b : List Event) : s.run (a ++ b) = (s.run a).run b := List.foldl_append

theorem raised_concat {i : Nat} {s : Scheduler} {events : List Event} {e : Event} :
    Raised i s (events ++ [e]) ↔ (s.run events).Raises i e ∨ e ≠ .take i ∧ Raised i s events := by
  constructor
  · rintro ⟨before, e', after, heq, hraises, htaken⟩
    rcases List.eq_nil_or_concat' after with rfl | ⟨after, last, rfl⟩
    · obtain ⟨rfl, hlast⟩ := List.append_inj' heq rfl
      obtain rfl := List.cons.inj hlast |>.1
      exact .inl hraises
    · rw [← List.cons_append, ← List.append_assoc] at heq
      obtain ⟨rfl, hlast⟩ := List.append_inj' heq rfl
      obtain rfl := List.cons.inj hlast |>.1
      rw [List.mem_append, List.mem_singleton, not_or] at htaken
      exact .inr ⟨Ne.symm htaken.2, before, e', after, rfl, hraises, htaken.1⟩
  · rintro (hraises | ⟨hne, before, e', after, rfl, hraises, htaken⟩)
    · exact ⟨events, e, [], rfl, hraises, List.not_mem_nil⟩
    · refine ⟨before, e', after ++ [e], by rw [List.append_assoc, List.cons_append], hraises, ?_⟩
      rw [List.mem_append, List.mem_singleton, not_or]
      exact ⟨htaken, Ne.symm hne⟩

/-! ### What one event does -/

variable {s : Scheduler} {i : Nat}

theorem register_cases (s : Scheduler) (t : PeriodicTask) :
    maxTasks ≤ s.tasks.length ∧ s.step (.register t) = s ∨
      s.tasks.length < maxTasks ∧ s.step (.register t) = { s with tasks := s.tasks ++ [t] } := by
  change _ ∧ (s.register t).toOption.getD s = s ∨ _ ∧ (s.register t).toOption.getD s = _
  unfold register
  by_cases hfull : maxTasks ≤ s.tasks.length
  · rw [if_pos hfull]
    exact .inl ⟨hfull, rfl⟩
  · rw [if_neg hfull]
    exact .inr ⟨Nat.lt_of_not_le hfull, rfl⟩

theorem task?_modifyTask (s : Scheduler) (i j : Nat) (f : PeriodicTask → PeriodicTask) :
    (s.modifyTask j f).task? i = (s.task? i).map fun t => if j = i then f t else t := by
  unfold task? modifyTask
  rw [List.getElem?_modify]
  rfl

theorem task?_lt {t : PeriodicTask} (h : s.task? i = some t) : i < s.tasks.length :=
  (List.getElem?_eq_some_iff.mp h).1

/-- An event for another task leaves a task alone, and so does a registration. -/
theorem task?_step_other {t : PeriodicTask} {e : Event} (h : s.task? i = some t) (htick : e ≠ .tick)
    (hother : e.position? ≠ some i) : (s.step e).task? i = some t := by
  have modified : ∀ {j f}, some j ≠ some i → (s.modifyTask j f).task? i = some t := by
    intro j f hj
    rw [task?_modifyTask, h, Option.map_some, if_neg fun heq => hj (congrArg some heq)]
  cases e with
  | tick => exact absurd rfl htick
  | register u =>
    obtain ⟨-, heq⟩ | ⟨-, heq⟩ := register_cases s u
    · rw [heq, h]
    · rw [heq]
      exact (List.getElem?_append_left (task?_lt h)).trans h
  | setPeriod j period => exact modified hother
  | trigger j => exact modified hother
  | take j => exact modified hother

theorem length_modifyTask (s : Scheduler) (i : Nat) (f : PeriodicTask → PeriodicTask) :
    (s.modifyTask i f).tasks.length = s.tasks.length :=
  List.length_modify _ _ _

theorem length_step (s : Scheduler) (e : Event) : (s.step e).tasks.length = s.tasks.length ∨
    s.tasks.length < maxTasks ∧ (s.step e).tasks.length = s.tasks.length + 1 := by
  cases e with
  | tick => exact .inl (List.length_map _)
  | register t =>
    obtain ⟨-, heq⟩ | ⟨hfree, heq⟩ := register_cases s t
    · exact .inl (congrArg (·.tasks.length) heq)
    · rw [heq, List.length_append]
      exact .inr ⟨hfree, rfl⟩
  | setPeriod j period => exact .inl (length_modifyTask s j _)
  | trigger j => exact .inl (length_modifyTask s j _)
  | take j => exact .inl (length_modifyTask s j _)

theorem ticks_step (s : Scheduler) (e : Event) : (s.step e).ticks = if e = .tick then s.ticks + 1 else s.ticks := by
  cases e with
  | register t =>
    obtain ⟨-, heq⟩ | ⟨-, heq⟩ := register_cases s t
    · rw [heq]
      rfl
    · rw [heq]
      rfl
  | _ => rfl

theorem period?_step {period : UInt64} (h : s.period? i = some period) {e : Event}
    (hperiod : ∀ q, e = .setPeriod i q → q = period) : (s.step e).period? i = some period := by
  cases e with
  | tick => exact (period?_onTick s i).trans h
  | register t =>
    obtain ⟨-, heq⟩ | ⟨-, heq⟩ := register_cases s t
    · rw [heq, h]
    · obtain ⟨u, hu, -⟩ := Option.map_eq_some_iff.mp h
      rw [heq, ← h]
      exact congrArg _ (List.getElem?_append_left (task?_lt hu))
  | setPeriod j q =>
    by_cases hj : j = i
    · subst hj
      obtain rfl := hperiod q rfl
      exact (period?_setPeriod s j q).trans (by rw [h]; rfl)
    · have hother : (s.setPeriod j q).task? i = s.task? i := by
        refine (task?_modifyTask s i j _).trans ?_
        cases s.task? i with
        | none => rfl
        | some t => rw [Option.map_some, if_neg hj]
      exact (congrArg (Option.map _) hother).trans h
  | trigger j => exact (period?_trigger s j i).trans h
  | take j => exact (period?_take s j i).trans h

/-! ### Flags -/

theorem take_eq_true_iff : (s.take i).1 = true ↔ ∃ t, s.task? i = some t ∧ t.pending = true := by
  change ((s.task? i).map PeriodicTask.pending).getD false = true ↔ _
  constructor
  · intro h
    cases ht : s.task? i with
    | none =>
      rw [ht] at h
      cases h
    | some t =>
      rw [ht] at h
      exact ⟨t, rfl, h⟩
  · rintro ⟨t, ht, hup⟩
    rw [ht]
    exact hup

theorem take_modifyTask (s : Scheduler) (i j : Nat) (f : PeriodicTask → PeriodicTask) :
    ((s.modifyTask j f).take i).1 = true ↔
      ∃ t, s.task? i = some t ∧ (if j = i then f t else t).pending = true := by
  rw [take_eq_true_iff, task?_modifyTask]
  constructor
  · rintro ⟨_, h, hup⟩
    obtain ⟨t, ht, rfl⟩ := Option.map_eq_some_iff.mp h
    exact ⟨t, ht, hup⟩
  · rintro ⟨t, ht, hup⟩
    exact ⟨_, Option.map_eq_some_iff.mpr ⟨t, ht, rfl⟩, hup⟩

theorem pending_onTick {t : PeriodicTask} {ordinal : UInt64} :
    (t.onTick ordinal).pending = true ↔ (t.period ≠ 0 ∧ t.period.toNat ∣ ordinal.toNat) ∨ t.pending = true := by
  have hdvd : t.period.toNat ∣ ordinal.toNat ↔ ordinal % t.period = 0 := by
    rw [← UInt64.toNat_inj, UInt64.toNat_mod, Nat.dvd_iff_mod_eq_zero]
    rfl
  rw [hdvd]
  unfold PeriodicTask.onTick
  split
  · rename_i hdue
    exact ⟨fun _ => .inl hdue, fun _ => rfl⟩
  · rename_i hdue
    exact ⟨.inr, fun h => h.resolve_left hdue⟩

theorem take_onTick_iff :
    (s.onTick.take i).1 = true ↔
      (∃ t, s.task? i = some t ∧ t.period ≠ 0 ∧ t.period.toNat ∣ (s.ticks + 1).toNat) ∨ (s.take i).1 = true := by
  rw [take_eq_true_iff, take_eq_true_iff]
  change (∃ t, (s.tasks.map (·.onTick (s.ticks + 1)))[i]? = some t ∧ _) ↔ _
  rw [List.getElem?_map]
  constructor
  · rintro ⟨_, h, hup⟩
    obtain ⟨t, ht, rfl⟩ := Option.map_eq_some_iff.mp h
    rcases pending_onTick.mp hup with ⟨hperiod, hdvd⟩ | hup
    · exact .inl ⟨t, ht, hperiod, hdvd⟩
    · exact .inr ⟨t, ht, hup⟩
  · rintro (⟨t, ht, hperiod, hdvd⟩ | ⟨t, ht, hup⟩)
    · exact ⟨_, Option.map_eq_some_iff.mpr ⟨t, ht, rfl⟩, pending_onTick.mpr (.inl ⟨hperiod, hdvd⟩)⟩
    · exact ⟨_, Option.map_eq_some_iff.mpr ⟨t, ht, rfl⟩, pending_onTick.mpr (.inr hup)⟩

theorem take_onTick (hticks : s.ticks.toNat + 1 < UInt64.size) :
    (s.onTick.take i).1 = true ↔ s.Raises i .tick ∨ (s.take i).1 = true := by
  have hordinal : (s.ticks + 1).toNat = s.ticks.toNat + 1 := by
    rw [UInt64.toNat_add]
    exact Nat.mod_eq_of_lt hticks
  rw [take_onTick_iff, hordinal]
  rfl

theorem take_register (u : PeriodicTask) :
    ((s.step (.register u)).take i).1 = true ↔ s.Raises i (.register u) ∨ (s.take i).1 = true := by
  obtain ⟨hfull, heq⟩ | ⟨hfree, heq⟩ := register_cases s u
  · rw [heq]
    refine ⟨.inr, ?_⟩
    rintro (⟨rfl, hlt, -⟩ | hup)
    · exact absurd hfull (Nat.not_le.mpr hlt)
    · exact hup
  · rw [heq, take_eq_true_iff, take_eq_true_iff]
    change (∃ t, (s.tasks ++ [u])[i]? = some t ∧ _) ↔ _
    rcases Nat.lt_trichotomy i s.tasks.length with hlt | rfl | hlt
    · rw [List.getElem?_append_left hlt]
      exact ⟨.inr, fun h => h.resolve_left fun hraises => Nat.ne_of_gt hlt hraises.1⟩
    · rw [List.getElem?_concat_length]
      constructor
      · rintro ⟨t, ht, hup⟩
        obtain rfl := Option.some.inj ht
        exact .inl ⟨rfl, hfree, hup⟩
      · rintro (⟨-, -, hup⟩ | ⟨t, ht, -⟩)
        · exact ⟨u, rfl, hup⟩
        · exact absurd (task?_lt ht) (Nat.lt_irrefl _)
    · constructor
      · rintro ⟨t, ht, -⟩
        have := (List.getElem?_eq_some_iff.mp ht).1
        rw [List.length_append, List.length_singleton] at this
        omega
      · rintro (⟨rfl, -⟩ | ⟨t, ht, -⟩)
        · exact absurd hlt (Nat.lt_irrefl _)
        · exact absurd (task?_lt ht) (Nat.lt_asymm hlt)

theorem take_step {e : Event} (hticks : e = .tick → s.ticks.toNat + 1 < UInt64.size) :
    ((s.step e).take i).1 = true ↔ s.Raises i e ∨ e ≠ .take i ∧ (s.take i).1 = true := by
  cases e with
  | tick =>
    refine (take_onTick (hticks rfl)).trans (or_congr_right ?_)
    exact (and_iff_right (by simp)).symm
  | register u =>
    refine (take_register u).trans (or_congr_right ?_)
    exact (and_iff_right (by simp)).symm
  | setPeriod j period =>
    refine (take_modifyTask s i j _).trans ?_
    rw [take_eq_true_iff]
    constructor
    · rintro ⟨t, ht, hup⟩
      refine .inr ⟨by simp, t, ht, ?_⟩
      split at hup <;> exact hup
    · rintro (h | ⟨-, t, ht, hup⟩)
      · cases h
      · refine ⟨t, ht, ?_⟩
        split <;> exact hup
  | trigger j =>
    refine (take_modifyTask s i j _).trans ?_
    rw [take_eq_true_iff]
    constructor
    · rintro ⟨t, ht, hup⟩
      split at hup
      · rename_i hj
        exact .inl ⟨hj, task?_lt ht⟩
      · exact .inr ⟨by simp, t, ht, hup⟩
    · rintro (⟨rfl, hlt⟩ | ⟨-, t, ht, hup⟩)
      · refine ⟨s.tasks[j], List.getElem?_eq_getElem hlt, ?_⟩
        rw [if_pos rfl]
      · refine ⟨t, ht, ?_⟩
        split
        · rfl
        · exact hup
  | take j =>
    refine (take_modifyTask s i j _).trans ?_
    rw [take_eq_true_iff]
    constructor
    · rintro ⟨t, ht, hup⟩
      split at hup
      · cases hup
      · rename_i hj
        exact .inr ⟨fun heq => hj (Event.take.inj heq), t, ht, hup⟩
    · rintro (h | ⟨hj, t, ht, hup⟩)
      · cases h
      · refine ⟨t, ht, ?_⟩
        rw [if_neg fun heq => hj (congrArg Event.take heq)]
        exact hup

/-! ### What a run does -/

theorem ticks_run {events : List Event} (h : s.ticks.toNat + events.count .tick < UInt64.size) :
    (s.run events).ticks.toNat = s.ticks.toNat + events.count .tick := by
  induction events using List.reverseRecOn with
  | nil => rfl
  | append_singleton events e ih =>
    rw [List.count_append, List.count_singleton] at h ⊢
    have hbefore := ih (by omega)
    rw [run_concat, ticks_step]
    by_cases he : e = .tick
    · subst he
      rw [if_pos rfl, UInt64.toNat_add, hbefore]
      exact Nat.mod_eq_of_lt h
    · rw [if_neg he, hbefore, if_neg (by simpa using he), Nat.add_zero]

theorem length_run (s : Scheduler) (events : List Event) : s.tasks.length ≤ (s.run events).tasks.length := by
  induction events using List.reverseRecOn with
  | nil => exact Nat.le_refl _
  | append_singleton events e ih =>
    rw [run_concat]
    have hstep := length_step (s.run events) e
    omega

theorem length_run_le (h : s.tasks.length ≤ maxTasks) (events : List Event) :
    (s.run events).tasks.length ≤ maxTasks := by
  induction events using List.reverseRecOn with
  | nil => exact h
  | append_singleton events e ih =>
    rw [run_concat]
    have hstep := length_step (s.run events) e
    omega

theorem period?_run {period : UInt64} (h : s.period? i = some period) {events : List Event}
    (hperiod : ∀ q, .setPeriod i q ∈ events → q = period) : (s.run events).period? i = some period := by
  induction events using List.reverseRecOn with
  | nil => exact h
  | append_singleton events e ih =>
    rw [run_concat]
    refine period?_step (ih fun q hq => hperiod q (List.mem_append_left _ hq)) ?_
    rintro q rfl
    exact hperiod q (List.mem_append_right _ (List.mem_singleton.mpr rfl))

/-- After a run a flag is up if something raised it, or if it was up before, and the task was not taken since. -/
theorem take_run {events : List Event} (h : s.ticks.toNat + events.count .tick < UInt64.size) :
    ((s.run events).take i).1 = true ↔ Raised i s events ∨ .take i ∉ events ∧ (s.take i).1 = true := by
  induction events using List.reverseRecOn with
  | nil =>
    constructor
    · exact fun hup => .inr ⟨List.not_mem_nil, hup⟩
    · rintro (⟨before, e, after, heq, -⟩ | ⟨-, hup⟩)
      · cases before <;> cases heq
      · exact hup
  | append_singleton events e ih =>
    rw [List.count_append, List.count_singleton] at h
    have hticks : (s.run events).ticks.toNat = s.ticks.toNat + events.count .tick := ticks_run (by omega)
    have hlast : e = .tick → (s.run events).ticks.toNat + 1 < UInt64.size := by
      rintro rfl
      rw [hticks]
      exact h
    rw [run_concat, take_step hlast, ih (by omega), raised_concat, List.mem_append, List.mem_singleton, not_or]
    constructor
    · rintro (hraises | ⟨hne, hraised | ⟨htaken, hup⟩⟩)
      · exact .inl (.inl hraises)
      · exact .inl (.inr ⟨hne, hraised⟩)
      · exact .inr ⟨⟨htaken, Ne.symm hne⟩, hup⟩
    · rintro ((hraises | ⟨hne, hraised⟩) | ⟨⟨htaken, hne⟩, hup⟩)
      · exact .inl hraises
      · exact .inr ⟨hne, .inl hraised⟩
      · exact .inr ⟨Ne.symm hne, .inr ⟨htaken, hup⟩⟩

theorem ticks_run_empty {events : List Event} (h : events.count .tick < UInt64.size) :
    (empty.run events).ticks.toNat = events.count .tick := by
  have hzero : (empty.ticks).toNat + events.count .tick = events.count .tick := Nat.zero_add _
  rw [ticks_run (by rw [hzero]; exact h), hzero]

theorem take_run_empty {events : List Event} (h : events.count .tick < UInt64.size) :
    ((empty.run events).take i).1 = true ↔ Raised i empty events := by
  rw [take_run (s := empty) (by change 0 + _ < _; omega)]
  refine ⟨fun hup => hup.resolve_right fun ⟨_, hempty⟩ => ?_, .inl⟩
  cases hempty

end Scheduler
end FieldLogger
