import Mathlib.Data.Nat.Find
import FieldLogger.Uplink

/-! The client among any transport and any ticks (`Uplink.postIn`), with every call that it makes of the transport. How
    long it waits is bounded by the polls that it is given; waiting ends with the first poll that is answered or after
    which the deadline has come (`await_ends`), and ticks that go on bring one (`Growing.exists_first`). -/

namespace FieldLogger

/-! ### The client among any transport and ticks -/

/-- Whether a post to an address starts, what each poll answers and what each reading of the ticks gives. -/
structure Surroundings where
  start : String → String → Except NetworkError Unit
  answers : Nat → PostStatus
  readings : Nat → UInt64

/-- A call of the transport. -/
inductive Call where
  | start (url body : String)
  | poll
  | abort
  deriving DecidableEq, Repr

/-- The address and the body of a post that a call starts. -/
def Call.post? : Call → Option (String × String)
  | .start url body => some (url, body)
  | .poll | .abort => none

/-- How posting ended, and the calls that it made. -/
structure Uplink.Outcome where
  result : Except NetworkError Unit
  uplink : Uplink
  calls : List Call

/-- How far the client has come with its surroundings: the polls and the readings it made, and all its calls. -/
structure Inquiry where
  polls : Nat
  readings : Nat
  calls : List Call

/-- The surroundings as what a client works with. -/
def Surroundings.link (s : Surroundings) : Link (StateM Inquiry) where
  start url body q := (s.start url body, { q with calls := q.calls ++ [.start url body] })
  poll q := (s.answers q.polls, { q with polls := q.polls + 1, calls := q.calls ++ [.poll] })
  abort q := ((), { q with calls := q.calls ++ [.abort] })
  ticks q := (s.readings q.readings, { q with readings := q.readings + 1 })
  pause := pure ()

/-- Posts the record that waits, with at most so many polls. -/
def Uplink.postIn (u : Uplink) (s : Surroundings) (polls : Nat) : Option Uplink.Outcome :=
  let (ended, q) := (u.postOn s.link polls).run ⟨0, 0, []⟩
  ended.map fun (result, uplink) => ⟨result, uplink, q.calls⟩

/-- How the client waits from the poll of that number on, and its calls: until the answer comes or the reading after a
    poll without one has reached the deadline; without a result where that takes more polls than these. -/
def Surroundings.await (s : Surroundings) (started deadline : UInt64) (k : Nat) :
    Nat → Option (Except NetworkError Unit × List Call)
  | 0 => none
  | polls + 1 =>
    match s.answers k with
    | .completed code => some ((PostAnswer.completed code).result, [.poll])
    | .failed reason => some ((PostAnswer.failed reason).result, [.poll])
    | .inProgress =>
      if deadline ≤ s.readings (k + 1) then
        some (.error (.timeout (s.readings (k + 1) - started)), [.poll, .abort])
      else (s.await started deadline (k + 1) polls).map fun r => (r.1, .poll :: r.2)

theorem Surroundings.run_awaitOn (s : Surroundings) (started deadline : UInt64) (k polls : Nat) (calls : List Call) :
    let run := (Uplink.awaitOn s.link started deadline polls).run ⟨k, k + 1, calls⟩
    run.1.map (fun result => (result, run.2.calls)) =
      (s.await started deadline k polls).map fun r => (r.1, calls ++ r.2) := by
  induction polls generalizing k calls with
  | zero => rfl
  | succ polls ih =>
    rw [Uplink.run_awaitOn]
    unfold await
    dsimp only [link, StateT.run]
    cases s.answers k with
    | completed code => rfl
    | failed reason => rfl
    | inProgress =>
      dsimp only
      split
      · dsimp only [Option.map_some]
        rw [List.append_assoc]
        rfl
      · refine (ih (k + 1) (calls ++ [.poll])).trans ?_
        rw [Option.map_map]
        refine congrArg (Option.map · _) (funext fun r => ?_)
        rw [List.append_assoc]
        rfl

/-! ### Words -/

theorem toNat_addSaturating (a b : UInt64) :
    (addSaturating a b).toNat = min (a.toNat + b.toNat) (UInt64.size - 1) := by
  have ha := a.toNat_lt
  have hb := b.toNat_lt
  have hsum := UInt64.toNat_add a b
  have hmost : (0xFFFFFFFFFFFFFFFF : UInt64).toNat = 18446744073709551615 := rfl
  unfold addSaturating UInt64.size
  split
  · rename_i hless
    rw [UInt64.lt_iff_toNat_lt, hsum] at hless
    rw [hmost]
    omega
  · rename_i hless
    rw [UInt64.lt_iff_toNat_lt, hsum] at hless
    rw [hsum]
    omega

/-! ### Waiting -/

namespace Surroundings

variable {s : Surroundings} {started deadline : UInt64} {k n polls : Nat}

/-- The poll brings no answer, and the ticks read after it are before the deadline. -/
def Waits (s : Surroundings) (deadline : UInt64) (k : Nat) : Prop :=
  s.answers k = .inProgress ∧ s.readings (k + 1) < deadline

theorem await_of_waits (h : s.Waits deadline k) :
    s.await started deadline k (polls + 1) =
      (s.await started deadline (k + 1) polls).map fun r => (r.1, .poll :: r.2) := by
  obtain ⟨hanswer, hreading⟩ := h
  rw [await, hanswer]
  dsimp only
  rw [if_neg (UInt64.not_le.mpr hreading)]

theorem await_of_all_wait (h : ∀ j < n, s.Waits deadline j) (started : UInt64) (polls : Nat) :
    s.await started deadline 0 (n + polls) =
      (s.await started deadline n polls).map fun r => (r.1, List.replicate n .poll ++ r.2) := by
  induction n generalizing polls with
  | zero =>
    rw [Nat.zero_add]
    cases s.await started deadline 0 polls <;> rfl
  | succ n ih =>
    rw [Nat.succ_add_eq_add_succ, ih fun j hj => h j (Nat.lt_succ_of_lt hj),
      await_of_waits (h n (Nat.lt_succ_self n)), Option.map_map]
    refine congrArg (Option.map · _) (funext fun r => ?_)
    rw [Function.comp_apply, List.replicate_succ', List.append_assoc]
    rfl

theorem exists_of_await {r : Except NetworkError Unit × List Call} (h : s.await started deadline k polls = some r) :
    ∃ n, ¬s.Waits deadline n := by
  induction polls generalizing k r with
  | zero => cases h
  | succ polls ih =>
    by_cases hwaits : s.Waits deadline k
    · rw [await_of_waits hwaits] at h
      obtain ⟨r', hr', -⟩ := Option.map_eq_some_iff.mp h
      exact ih hr'
    · exact ⟨k, hwaits⟩

theorem exists_first (h : ∃ n, ¬s.Waits deadline n) :
    ∃ n, (∀ j < n, s.Waits deadline j) ∧ ¬s.Waits deadline n := by
  classical
  exact ⟨Nat.find h, fun j hj => not_not.mp (Nat.find_min h hj), Nat.find_spec h⟩

section
variable (h : ∀ j < n, s.Waits deadline j)
include h

theorem await_of_few (hpolls : polls ≤ n) : s.await started deadline 0 polls = none := by
  have hall := await_of_all_wait (fun j hj => h j (Nat.lt_of_lt_of_le hj hpolls)) started 0
  rw [Nat.add_zero] at hall
  exact hall

theorem await_of_answer (answer : PostAnswer) (hanswer : s.answers n = PostAnswer.status answer)
    (hpolls : n < polls) :
    s.await started deadline 0 polls = some (answer.result, List.replicate (n + 1) .poll) := by
  obtain ⟨more, rfl⟩ := Nat.exists_eq_add_of_lt hpolls
  have hlast : s.await started deadline n (more + 1) = some (answer.result, [.poll]) := by
    rw [await, hanswer]
    cases answer <;> rfl
  rw [Nat.add_assoc, await_of_all_wait h, hlast, List.replicate_succ']
  rfl

theorem await_of_late (hanswer : s.answers n = .inProgress) (hlate : deadline ≤ s.readings (n + 1))
    (hpolls : n < polls) :
    s.await started deadline 0 polls =
      some (.error (.timeout (s.readings (n + 1) - started)), List.replicate (n + 1) .poll ++ [.abort]) := by
  obtain ⟨more, rfl⟩ := Nat.exists_eq_add_of_lt hpolls
  have hlast : s.await started deadline n (more + 1) =
      some (.error (.timeout (s.readings (n + 1) - started)), [.poll, .abort]) := by
    rw [await, hanswer]
    dsimp only
    rw [if_pos hlate]
  rw [Nat.add_assoc, await_of_all_wait h, hlast, List.replicate_succ', List.append_assoc]
  rfl

/-- Waiting ends with the first poll that is answered, or after which the deadline has come. -/
theorem await_ends (hend : ¬s.Waits deadline n) (started : UInt64) (hpolls : n < polls) :
    ∃ r, s.await started deadline 0 polls = some r ∧ r.2.count .poll = n + 1 ∧ r.2.filterMap Call.post? = [] := by
  cases hanswer : s.answers n with
  | inProgress =>
    have hlate : deadline ≤ s.readings (n + 1) := UInt64.not_lt.mp fun hearly => hend ⟨hanswer, hearly⟩
    exact ⟨_, await_of_late h hanswer hlate hpolls, by simp [List.count_append], by simp [Call.post?]⟩
  | completed code =>
    exact ⟨_, await_of_answer h (.completed code) hanswer hpolls, List.count_replicate_self, by simp [Call.post?]⟩
  | failed reason =>
    exact ⟨_, await_of_answer h (.failed reason) hanswer hpolls, List.count_replicate_self, by simp [Call.post?]⟩

end

/-! ### Ticks that go on -/

/-- Each reading is greater than the one before it, or the largest that there is. -/
def Growing (s : Surroundings) : Prop :=
  ∀ n, s.readings n < s.readings (n + 1) ∨ (s.readings (n + 1)).toNat = UInt64.size - 1

/-- The largest reading is no reading before a deadline, so ticks went by in every poll. -/
theorem Growing.add_le (hgrowing : s.Growing) (h : ∀ j < n, s.Waits deadline j) :
    (s.readings 0).toNat + n ≤ (s.readings n).toNat := by
  induction n with
  | zero => exact Nat.le_refl _
  | succ n ih =>
    have hbefore := ih fun j hj => h j (Nat.lt_succ_of_lt hj)
    have hearly := UInt64.lt_iff_toNat_lt.mp (h n (Nat.lt_succ_self n)).2
    have hdeadline := deadline.toNat_lt
    rcases hgrowing n with hless | hmost
    · have := UInt64.lt_iff_toNat_lt.mp hless
      omega
    · rw [UInt64.size] at hmost
      omega

theorem Growing.exists_first (hgrowing : s.Growing) (deadline : UInt64) :
    ∃ n, (∀ j < n, s.Waits deadline j) ∧ ¬s.Waits deadline n ∧
      n + 1 ≤ max 1 (deadline.toNat - (s.readings 0).toNat) := by
  have hends : ∃ n, ¬s.Waits deadline n := by
    by_contra hnone
    have hall : ∀ j, s.Waits deadline j := fun j => not_not.mp fun hj => hnone ⟨j, hj⟩
    have hle := hgrowing.add_le (n := deadline.toNat + 1) fun j _ => hall j
    have hearly := UInt64.lt_iff_toNat_lt.mp (hall deadline.toNat).2
    omega
  obtain ⟨n, hwait, hend⟩ := Surroundings.exists_first hends
  refine ⟨n, hwait, hend, ?_⟩
  cases n with
  | zero => exact Nat.le_max_left _ _
  | succ n =>
    have hle := hgrowing.add_le hwait
    have hearly := UInt64.lt_iff_toNat_lt.mp (hwait n (Nat.lt_succ_self n)).2
    omega

end Surroundings
end FieldLogger
