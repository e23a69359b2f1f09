import FieldLogger.Proofs.Uplink.Course

/-! Which operations of the scheduler leave the periods of its tasks alone: ticks, flags and posts do, and
    `setPeriod` gives a task that exists another one. -/

namespace FieldLogger
namespace Scheduler

/-- The period of the task at a position. -/
def period? (s : Scheduler) (i : Nat) : Option UInt64 := (s.task? i).map (·.period)

/-! ### Single operations -/

theorem period?_modifyTask (s : Scheduler) (i j : Nat) {f : PeriodicTask → PeriodicTask}
    (hf : ∀ t, (f t).period = t.period) : (s.modifyTask i f).period? j = s.period? j := by
  unfold period? task? modifyTask
  rw [List.getElem?_modify]
  cases s.tasks[j]? with
  | none => rfl
  | some t =>
    refine congrArg some ?_
    show (if i = j then f t else t).period = t.period
    split
    · exact hf t
    · rfl

theorem period?_trigger (s : Scheduler) (i j : Nat) : (s.trigger i).period? j = s.period? j :=
  period?_modifyTask s i j fun _ => rfl

theorem period?_take (s : Scheduler) (i j : Nat) : (s.take i).2.period? j = s.period? j :=
  period?_modifyTask s i j fun _ => rfl

theorem period?_setPeriod (s : Scheduler) (i : Nat) (period : UInt64) :
    (s.setPeriod i period).period? i = (s.period? i).map fun _ => period := by
  unfold setPeriod period? task? modifyTask
  rw [List.getElem?_modify]
  cases s.tasks[i]? with
  | none => rfl
  | some t =>
    refine congrArg some ?_
    show (if i = i then { t with period } else t).period = period
    rw [if_pos rfl]

theorem period?_onTick (s : Scheduler) (i : Nat) : s.onTick.period? i = s.period? i := by
  unfold onTick period? task?
  rw [List.getElem?_map, Option.map_map]
  congr 1
  funext t
  show (t.onTick (s.ticks + 1)).period = t.period
  unfold PeriodicTask.onTick
  split <;> rfl

/-! ### Stretches of time -/

theorem period?_advance (n : Nat) (s : Scheduler) (i : Nat) : (advance n s).period? i = s.period? i := by
  induction n generalizing s with
  | zero => rfl
  | succ n ih =>
    rw [advance, ih, period?_onTick]

theorem period?_await (started deadline : UInt64) (lastWait : Nat) (answer : PostAnswer) (waits : List Nat)
    (s : Scheduler) (i : Nat) :
    (Uplink.await started deadline lastWait answer waits s).ticks.period? i = s.period? i := by
  induction waits generalizing s with
  | nil => exact period?_advance lastWait s i
  | cons wait waits ih =>
    unfold Uplink.await
    dsimp only
    split
    · exact period?_advance wait s i
    · exact (ih _).trans (period?_advance wait s i)

/-- Ticks pass while a post is made, but no task gets another period. -/
theorem period?_post (u : Uplink) (attempt : Attempt) (s : Scheduler) (i : Nat) :
    (u.post attempt s).ticks.period? i = s.period? i := by
  refine Uplink.post_cases (P := fun posted : Posted Scheduler => posted.ticks.period? i = s.period? i) ?_ ?_ ?_
  · intro _
    rfl
  · intro _ _ _ _
    rfl
  · intro _ course _ _
    exact period?_await _ _ _ _ _ s i

end Scheduler

theorem Uplink.slot_post {σ : Type} [TickSource σ] (u : Uplink) (attempt : Attempt) (ticks : σ) :
    (u.post attempt ticks).uplink.slot = .empty := by
  refine post_cases (P := fun posted => posted.uplink.slot = .empty) ?_ ?_ ?_
  · intro hpending
    exact congrArg Slot.mk hpending
  · intro _ _ _ _
    rfl
  · intro record _ _ _
    exact slot_settled u record _

end FieldLogger
