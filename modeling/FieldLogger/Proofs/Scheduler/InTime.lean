import FieldLogger.Proofs.Scheduler.Runs

/-! Tasks that are taken in time. Each multiple of the period raises the flag and nothing else does, so between one
    multiple and the next a task is found with its flag up once (`taken_add_flag`). `run_law` says this together with
    what holds of every run. -/

namespace FieldLogger
namespace Scheduler

variable {i : Nat}

/-! ### Takes between the multiples of the period -/

/-- After every tick whose ordinal is a multiple of the period the task is taken, before the next such tick. -/
def Served (i period : Nat) (events : List Event) : Prop :=
  ∀ before after, events = before ++ .tick :: after → period ∣ before.count .tick + 1 →
    ∃ between rest, after = between ++ .take i :: rest ∧
      ∀ b c, between = b ++ .tick :: c → ¬period ∣ (before ++ .tick :: b).count .tick + 1

/-- The flag of a task is raised at the multiples of the period, and never else. -/
def RaisedOnTime (i period : Nat) (events : List Event) : Prop :=
  ∀ before e after, events = before ++ e :: after →
    ((empty.run before).Raises i e ↔ e = .tick ∧ period ∣ before.count .tick + 1)

theorem taken_concat (i : Nat) (s : Scheduler) (events : List Event) (e : Event) :
    taken i s (events ++ [e]) =
      taken i s events + if e = .take i ∧ ((s.run events).take i).1 = true then 1 else 0 := by
  induction events generalizing s with
  | nil => exact Nat.add_comm _ _
  | cons e' events ih =>
    rw [List.cons_append, taken, taken, ih, Nat.add_assoc]
    rfl

/-- One event moves a flag that it takes down over to the takes, and raises it only at a multiple of the period, where
    it was down. -/
theorem account_step {s : Scheduler} {e : Event} {period n : Nat}
    (hup : ((s.step e).take i).1 = true ↔ (e = .tick ∧ period ∣ n + 1) ∨ e ≠ .take i ∧ (s.take i).1 = true)
    (hdown : e = .tick → period ∣ n + 1 → (s.take i).1 = false) :
    (if e = .take i ∧ (s.take i).1 = true then 1 else 0) + ((s.step e).take i).1.toNat + n / period =
      (s.take i).1.toNat + (n + [e].count .tick) / period := by
  by_cases htick : e = .tick
  · subst htick
    rw [List.count_singleton_self, if_neg (by simp), Nat.zero_add]
    by_cases hdue : period ∣ n + 1
    · rw [hup.mpr (.inl ⟨rfl, hdue⟩), hdown rfl hdue, Nat.succ_div_of_dvd hdue]
      exact (Nat.add_comm _ _).trans (Nat.zero_add _).symm
    · have hsame : ((s.step .tick).take i).1 = (s.take i).1 := by
        rw [Bool.eq_iff_iff, hup]
        simp [hdue]
      rw [hsame, Nat.succ_div_of_not_dvd hdue]
  · rw [List.count_eq_zero.mpr fun hmem => htick (List.mem_singleton.mp hmem).symm, Nat.add_zero]
    congr 1
    by_cases htake : e = .take i
    · have hlow : ((s.step e).take i).1 = false := by
        rw [Bool.eq_false_iff, ne_eq, hup]
        simp [htake]
      rw [hlow]
      cases hflag : (s.take i).1 with
      | false =>
        rw [if_neg fun h => by cases h.2]
        rfl
      | true =>
        rw [if_pos ⟨htake, rfl⟩]
        rfl
    · have hsame : ((s.step e).take i).1 = (s.take i).1 := by
        rw [Bool.eq_iff_iff, hup]
        simp [htick, htake]
      rw [hsame, if_neg fun h => htake h.1, Nat.zero_add]

theorem append_of_not_mem {a b between rest : List Event} {e : Event} (h : a ++ b = between ++ e :: rest)
    (he : e ∉ a) : ∃ c, between = a ++ c ∧ b = c ++ e :: rest := by
  rcases List.append_eq_append_iff.mp h with ⟨c, rfl, hb⟩ | ⟨c, rfl, hrest⟩
  · exact ⟨c, rfl, hb⟩
  · cases c with
    | nil => exact ⟨[], by rw [List.append_nil, List.append_nil], hrest.symm⟩
    | cons e' c =>
      obtain ⟨rfl, -⟩ := List.cons.inj hrest
      exact absurd (List.mem_append_right _ List.mem_cons_self) he

section
variable {period : Nat} {events : List Event} (hserved : Served i period events)
  (hraised : RaisedOnTime i period events)
include hserved hraised

theorem not_raised_of_served {a b : List Event} (heq : events = a ++ b)
    (hb : b = [] ∨ ∃ b', b = .tick :: b' ∧ period ∣ a.count .tick + 1) : ¬Raised i empty a := by
  rintro ⟨before, e, after, rfl, hraises, htaken⟩
  rw [List.append_assoc, List.cons_append] at heq
  obtain ⟨rfl, hdue⟩ := (hraised before e (after ++ b) heq).mp hraises
  obtain ⟨between, rest, hbetween, hnext⟩ := hserved before (after ++ b) heq hdue
  obtain ⟨c, rfl, hc⟩ := append_of_not_mem hbetween htaken
  rcases hb with rfl | ⟨b, rfl, hdue'⟩
  · cases c <;> cases hc
  · cases c with
    | nil => cases hc
    | cons e' c =>
      obtain ⟨rfl, -⟩ := List.cons.inj hc
      exact hnext after c rfl hdue'

/-- The takes that found the flag up, with the one that is still to come, are the multiples of the period so far. -/
theorem taken_add_flag (hticks : events.count .tick < UInt64.size) {a b : List Event} (heq : events = a ++ b) :
    taken i empty a + (((empty.run a).take i).1).toNat = a.count .tick / period := by
  induction a using List.reverseRecOn generalizing b with
  | nil =>
    rw [List.count_nil, Nat.zero_div]
    rfl
  | append_singleton a e ih =>
    rw [List.append_assoc, List.singleton_append] at heq
    have hbefore := ih heq
    have hup := take_step (i := i) (s := empty.run a) (e := e) fun he => by
      rw [heq, he, List.count_append, List.count_cons_self] at hticks
      rw [ticks_run_empty (by omega)]
      omega
    rw [hraised a e b heq] at hup
    -- the flag was taken down since the last multiple
    have hdown : e = .tick → period ∣ a.count .tick + 1 → ((empty.run a).take i).1 = false := by
      rintro rfl hdue
      rw [Bool.eq_false_iff, ne_eq, take_run_empty (by rw [heq, List.count_append] at hticks; omega)]
      exact not_raised_of_served hserved hraised heq (.inr ⟨b, rfl, hdue⟩)
    have hstep := account_step hup hdown
    rw [run_concat, taken_concat, List.count_append]
    omega

/-- A task that is taken in time is found with its flag up once for each multiple of its period. -/
theorem taken_of_served (hticks : events.count .tick < UInt64.size) :
    taken i empty events = events.count .tick / period := by
  have hall := taken_add_flag hserved hraised hticks (List.append_nil events).symm
  have hdown : ((empty.run events).take i).1 = false := by
    rw [Bool.eq_false_iff, ne_eq, take_run_empty hticks]
    exact not_raised_of_served hserved hraised (List.append_nil events).symm (.inl rfl)
  rw [hdown] at hall
  exact hall

end

/-- A task that is registered before the first tick with its flag down, is never triggered and keeps its period. -/
structure Steady (t : PeriodicTask) (head rest : List Event) : Prop where
  early : .tick ∉ head
  /-- The registration is not refused. -/
  free : (empty.run head).tasks.length < maxTasks
  down : t.pending = false
  constant : ∀ period, .setPeriod (empty.run head).tasks.length period ∈ rest → period = t.period
  untriggered : .trigger (empty.run head).tasks.length ∉ rest

section
variable {t : PeriodicTask} {head rest : List Event} (h : Steady t head rest)
include h

theorem Steady.period? {mid after : List Event} (hrest : rest = mid ++ after) :
    (empty.run (head ++ .register t :: mid)).period? (empty.run head).tasks.length = some t.period := by
  have hregister : ((empty.run head).step (.register t)).period? (empty.run head).tasks.length = some t.period := by
    obtain ⟨hfull, -⟩ | ⟨-, heq⟩ := register_cases (empty.run head) t
    · exact absurd h.free (Nat.not_lt.mpr hfull)
    · rw [heq]
      exact congrArg (Option.map _) List.getElem?_concat_length
  rw [← List.singleton_append, ← List.append_assoc, run_append, run_concat]
  refine period?_run hregister fun q hq => h.constant q ?_
  rw [hrest]
  exact List.mem_append_left _ hq

/-- Nothing raises the flag of a position where no task is registered yet. -/
theorem Steady.not_raises {before after : List Event} {e : Event} (hhead : head = before ++ e :: after) :
    ¬(empty.run before).Raises (empty.run head).tasks.length e := by
  have hstep : ((empty.run before).step e).tasks.length ≤ (empty.run head).tasks.length := by
    rw [hhead, ← List.singleton_append, ← List.append_assoc, run_append, run_concat]
    exact length_run _ _
  intro hraises
  cases e with
  | tick =>
    refine h.early ?_
    rw [hhead]
    exact List.mem_append_right _ List.mem_cons_self
  | trigger j =>
    have hsame : ((empty.run before).step (.trigger j)).tasks.length = _ := length_modifyTask _ j _
    have hlt := hraises.2
    omega
  | register u =>
    obtain ⟨hlength, hfree, -⟩ := hraises
    obtain ⟨hfull, -⟩ | ⟨-, heq⟩ := register_cases (empty.run before) u
    · omega
    · rw [heq, List.length_append, List.length_singleton] at hstep
      omega
  | setPeriod j period => cases hraises
  | take j => cases hraises

/-- Once the task is registered its flag is raised by the multiples of its period and by nothing else. -/
theorem Steady.raises_iff {mid after : List Event} {e : Event} (hrest : rest = mid ++ e :: after)
    (hticks : (head ++ .register t :: mid).count .tick < UInt64.size) :
    (empty.run (head ++ .register t :: mid)).Raises (empty.run head).tasks.length e ↔
      e = .tick ∧ t.period.toNat ∣ (head ++ .register t :: mid).count .tick + 1 := by
  obtain ⟨u, htask, hperiod⟩ := Option.map_eq_some_iff.mp (h.period? hrest)
  cases e with
  | tick =>
    have hordinal : (empty.run (head ++ .register t :: mid)).ticks.toNat = (head ++ .register t :: mid).count .tick :=
      ticks_run_empty hticks
    rw [← hordinal, ← hperiod]
    constructor
    · rintro ⟨u', htask', -, hdvd⟩
      obtain rfl := Option.some.inj (htask.symm.trans htask')
      exact ⟨rfl, hdvd⟩
    · rintro ⟨-, hdvd⟩
      refine ⟨u, htask, fun hzero => ?_, hdvd⟩
      rw [hzero] at hdvd
      exact Nat.succ_ne_zero _ (Nat.zero_dvd.mp hdvd)
  | trigger j =>
    refine iff_of_false ?_ fun hne => by cases hne.1
    rintro ⟨rfl, -⟩
    refine h.untriggered ?_
    rw [hrest]
    exact List.mem_append_right _ List.mem_cons_self
  | register v =>
    have hlt := task?_lt htask
    exact iff_of_false (fun hraises => Nat.ne_of_gt hlt hraises.1) fun hne => by cases hne.1
  | setPeriod j period => exact iff_of_false (fun hraises => by cases hraises) fun hne => by cases hne.1
  | take j => exact iff_of_false (fun hraises => by cases hraises) fun hne => by cases hne.1

theorem Steady.raisedOnTime (hticks : (head ++ .register t :: rest).count .tick < UInt64.size) :
    RaisedOnTime (empty.run head).tasks.length t.period.toNat (head ++ .register t :: rest) := by
  have registered : ¬(empty.run head).Raises (empty.run head).tasks.length (.register t) := fun ⟨_, _, hup⟩ => by
    rw [h.down] at hup
    cases hup
  intro before e after heq
  rcases List.append_eq_append_iff.mp heq with ⟨mid, rfl, hrest⟩ | ⟨c, hhead, hafter⟩
  · cases mid with
    | nil =>
      obtain ⟨rfl, -⟩ := List.cons.inj hrest
      rw [List.append_nil]
      exact iff_of_false registered fun hne => by cases hne.1
    | cons u mid =>
      obtain ⟨rfl, hmid⟩ := List.cons.inj hrest
      refine h.raises_iff hmid (Nat.lt_of_le_of_lt ?_ hticks)
      rw [heq]
      exact (List.sublist_append_left _ _).count_le _
  · cases c with
    | nil =>
      obtain ⟨rfl, -⟩ := List.cons.inj hafter
      rw [List.append_nil] at hhead
      subst hhead
      exact iff_of_false registered fun hne => by cases hne.1
    | cons u c =>
      obtain ⟨rfl, -⟩ := List.cons.inj hafter
      refine iff_of_false (h.not_raises hhead) ?_
      rintro ⟨rfl, -⟩
      refine h.early ?_
      rw [hhead]
      exact List.mem_append_right _ List.mem_cons_self

end

/-! ### The law of runs -/

/-- After any run of fewer than 2^64 ticks: the count is the number of ticks; a flag is up exactly when it was raised,
    by hand or by a multiple of the period of that moment, and its task was not taken since; a take tells the flag,
    takes it down and changes nothing else; only ticks and what is done to a task change it, and its period is the last
    one set. A steady task that is taken after each multiple of its period before the next is found with its flag up
    once for each of them; with a period of 0 it never is. -/
theorem run_law {events : List Event} (hticks : events.count .tick < UInt64.size) :
    (empty.run events).ticks.toNat = events.count .tick ∧ (empty.run events).tasks.length ≤ maxTasks ∧
    (∀ i t, (empty.run events).task? i = some t →
      (t.pending = true ↔ Raised i empty events) ∧ ((empty.run events).take i).1 = t.pending ∧
      ((empty.run events).take i).2.task? i = some { t with pending := false } ∧
      (∀ e, e ≠ .tick → e.position? ≠ some i → ((empty.run events).step e).task? i = some t) ∧
      (∀ q, ((empty.run events).setPeriod i q).task? i = some { t with period := q }) ∧
      ∀ e, (∀ q, e ≠ .setPeriod i q) → ((empty.run events).step e).period? i = some t.period) ∧
    ∀ head t rest, events = head ++ .register t :: rest → Steady t head rest →
      let i := (empty.run head).tasks.length
      (t.period = 0 → taken i empty events = 0) ∧
      (Served i t.period.toNat events → taken i empty events = events.count .tick / t.period.toNat) := by
  refine ⟨ticks_run_empty hticks, length_run_le (Nat.zero_le _) events, fun i t ht => ?_, ?_⟩
  · have htake : ((empty.run events).take i).1 = t.pending := by
      change (((empty.run events).task? i).map PeriodicTask.pending).getD false = _
      rw [ht]
      rfl
    have modified : ∀ f, ((empty.run events).modifyTask i f).task? i = some (f t) := by
      intro f
      rw [task?_modifyTask, ht, Option.map_some, if_pos rfl]
    refine ⟨?_, htake, modified _, fun e htick hother => task?_step_other ht htick hother, fun q => modified _,
      fun e hperiod => period?_step (congrArg _ ht) fun q hq => absurd hq (hperiod q)⟩
    rw [← htake]
    exact take_run_empty hticks
  · rintro head t rest rfl hsteady
    have hraised := hsteady.raisedOnTime hticks
    refine ⟨fun hzero => ?_, fun hserved => taken_of_served hserved hraised hticks⟩
    have hserved : Served (empty.run head).tasks.length t.period.toNat (head ++ .register t :: rest) := by
      intro before after _ hdvd
      rw [hzero] at hdvd
      exact absurd (Nat.zero_dvd.mp hdvd) (Nat.succ_ne_zero _)
    rw [taken_of_served hserved hraised hticks, hzero]
    exact Nat.div_zero _

/-- Five ticks with two tasks, of which one has a period of two ticks and the other is triggered. -/
theorem run_law_two_tasks :
    let t : PeriodicTask := .ofPeriod "medição" 2
    let u : PeriodicTask := .ofPeriod "envio" 0
    let head : List Event := [.register u]
    let rest : List Event := [.tick, .tick, .trigger 0, .take 1, .take 1, .tick, .tick, .take 0, .take 1, .tick]
    let events := head ++ .register t :: rest
    events.count .tick < UInt64.size ∧ Steady t head rest ∧ Served 1 2 events ∧ taken 1 empty events = 2 ∧
      (empty.run events).ticks.toNat = 5 ∧ ((empty.run events).take 1).1 = false := by
  intro t u head rest events
  have hticks : events.count .tick < UInt64.size := by decide
  have hsteady : Steady t head rest := by
    refine ⟨by decide, by decide, rfl, fun period hperiod => ?_, by decide⟩
    simp [rest] at hperiod
  have hserved : Served 1 2 events := by
    intro before after heq hdue
    simp only [events, head, rest, List.cons_append, List.nil_append, List.cons_eq_append_iff, List.cons.injEq,
      List.nil_eq_append_iff, reduceCtorEq, exists_false, false_and, and_false, false_or, or_false, true_and,
      ↓existsAndEq] at heq
    obtain ⟨_, rfl, ⟨rfl, rfl⟩ | ⟨_, rfl, ⟨rfl, rfl⟩ | ⟨_, rfl, ⟨rfl, rfl⟩ | ⟨_, rfl, ⟨rfl, rfl⟩ | ⟨rfl, rfl⟩⟩⟩⟩⟩ := heq
    · exact absurd hdue (by decide)
    · exact ⟨[.trigger 0], _, rfl, fun b c hbetween => by simp [List.cons_eq_append_iff] at hbetween⟩
    · exact absurd hdue (by decide)
    · exact ⟨[.take 0], _, rfl, fun b c hbetween => by simp [List.cons_eq_append_iff] at hbetween⟩
    · exact absurd hdue (by decide)
  obtain ⟨hcount, -, htasks, htaken⟩ := run_law hticks
  have hlast := (htasks 1 { t with pending := false } (by decide)).2.1
  have htwice : taken 1 empty events = 2 := ((htaken head t rest rfl hsteady).2 hserved).trans (by decide)
  exact ⟨hticks, hsteady, hserved, htwice, hcount, hlast⟩

end Scheduler
end FieldLogger
